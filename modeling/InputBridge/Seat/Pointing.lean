-- SUMMARY: Buttons, motion and touch contacts as input, with their positions on the screen.
import InputBridge.Seat.Basic

/-!
# Pointing at a seat

Buttons, motion, raw motion and touch contacts as input. Positions are delivered
relative to the virtual screen. One that does not fit is not delivered: the
subtraction ends the program.
-/

namespace InputBridge

namespace Seat

/-! ## Positions -/

/-- A position of the root window as one of the virtual screen. -/
def toScreen (rootX rootY : Int32) (screen : Rect) : Except Overflow (Int32 × Int32) := do
  let x ← checkedSub (fixed16Round rootX) screen.left
  let y ← checkedSub (fixed16Round rootY) screen.top
  return (x, y)

/-- The place of `pos` between `origin` and `origin + extent`, from 0 to 65535. -/
def normalize (pos origin : Int32) (extent : Int) : Int32 :=
  if extent ≤ 0 then 0
  else
    Int32.ofInt (max 0 (min 65535 (((pos.toInt - origin.toInt) * 65535).tdiv extent)))

/-! ## Mouse -/

/-- A button is delivered twice: without a window, and to the window with the
position. -/
def onButton (s : Seat) (screen : Rect) (press : Bool) (time : UInt32) (window : WindowId)
    (detail : UInt32) (rootX rootY : Int32) : Except Overflow (List Delivery) :=
  match s.windows.lookup? window, Pointer.button? detail press with
  | some handle, some (flags, data) => do
    let (x, y) ← toScreen rootX rootY screen
    return [.input none (.mouse 0 0 data flags time),
      .input (some handle) (.mouse x y data (flags ||| MouseFlag.absolute) time)]
  | _, _ => return []

/-- Motion goes to its window, unless it comes from the last warp. -/
def onMotion (s : Seat) (screen : Rect) (seq : UInt64) (time : UInt32) (window : WindowId)
    (rootX rootY : Int32) : Except Overflow (List Delivery) :=
  -- the seat itself has caused it
  if s.lastWarp = some seq then return []
  else match s.windows.lookup? window with
    | none => return []
    | some handle => do
      let (x, y) ← toScreen rootX rootY screen
      return [.input (some handle) (.mouse x y 0 (MouseFlag.move ||| MouseFlag.absolute) time)]

def onRawMotion (s : Seat) (time : UInt32) (mask : List UInt32) (values : List Fixed32) :
    List Delivery :=
  match Pointer.rawMotion? s.pointer mask values time with
  | none => []
  | some input => [.input none input]

/-- The pointer's axes are replaced when it is the pointer that has changed. -/
def onDeviceChanged (s : Seat) (device : UInt16) (axes : List Axis) : Seat :=
  if device = s.pointer.id then { s with pointer := .ofAxes device axes } else s

/-! ## Touch -/

def phaseFlags : TouchPhase → UInt32
  | .start => TouchFlag.new ||| TouchFlag.inRange ||| TouchFlag.inContact ||| TouchFlag.down
  | .update => TouchFlag.inRange ||| TouchFlag.inContact ||| TouchFlag.update
  | .finish => TouchFlag.up

def onTouch (s : Seat) (screen : Rect) (phase : TouchPhase) (time : UInt32) (window : WindowId)
    (id : UInt32) (rootX rootY : Int32) : List Delivery :=
  match s.windows.lookup? window with
  | none => []
  | some handle =>
    let x := normalize (fixed16Round rootX) screen.left screen.width
    let y := normalize (fixed16Round rootY) screen.top screen.height
    [.input (some handle) (.touch x y id (phaseFlags phase) time)]

end Seat

end InputBridge
