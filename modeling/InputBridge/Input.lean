-- SUMMARY: Inputs with their flags, rectangles and lock keys.

/-!
# Input

The inputs that a desktop receives, and the rectangles and lock keys that go with
them.
-/

namespace InputBridge

/-! ## Flags -/

namespace MouseFlag

def move : UInt32 := 0x0001
def leftDown : UInt32 := 0x0002
def leftUp : UInt32 := 0x0004
def rightDown : UInt32 := 0x0008
def rightUp : UInt32 := 0x0010
def middleDown : UInt32 := 0x0020
def middleUp : UInt32 := 0x0040
def sideDown : UInt32 := 0x0080
def sideUp : UInt32 := 0x0100
def wheel : UInt32 := 0x0800
def sideWheel : UInt32 := 0x1000
def virtualDesktop : UInt32 := 0x4000
def absolute : UInt32 := 0x8000

end MouseFlag

namespace KeyFlag

def extended : UInt32 := 0x0001
def up : UInt32 := 0x0002

end KeyFlag

namespace TouchFlag

def new : UInt32 := 0x0001
def inRange : UInt32 := 0x0002
def inContact : UInt32 := 0x0004
def down : UInt32 := 0x00010000
def update : UInt32 := 0x00020000
def up : UInt32 := 0x00040000

end TouchFlag

/-! ## Inputs -/

/-- One input for a desktop. -/
inductive Input where
  | mouse (dx dy data : Int32) (flags time : UInt32)
  | key (vk scan : UInt16) (flags time : UInt32)
  | touch (x y : Int32) (id flags time : UInt32)
  deriving DecidableEq, Repr, Inhabited

/-- A rectangle whose right and bottom edges lie outside it. -/
structure Rect where
  left : Int32
  top : Int32
  right : Int32
  bottom : Int32
  deriving DecidableEq, Repr, Inhabited

namespace Rect

/-- The distance between the edges, negative if they are crossed. -/
def width (r : Rect) : Int := r.right.toInt - r.left.toInt

def height (r : Rect) : Int := r.bottom.toInt - r.top.toInt

end Rect

/-- State of the lock keys. -/
structure Locks where
  caps : Bool := false
  num : Bool := false
  deriving DecidableEq, Repr, Inhabited

end InputBridge
