-- SUMMARY: The messages of clients and broker with their fields and statuses.
import InputBridge.Input
import InputBridge.Keyboard.Keymap
import InputBridge.WindowTable

/-!
# Messages

What clients and the broker say to each other. A client asks with an id of its
own, and the answer carries the same id; what the broker says unasked has id 0.
-/

namespace InputBridge

/-- What a client is: a desktop that receives input, or a command. -/
inductive Role where
  | desktop
  | client
  deriving DecidableEq, Repr, Inhabited

inductive Status where
  | ok
  | error
  | notSupported
  | invalidParameter
  | notFound
  deriving DecidableEq, Repr, Inhabited

/-- One layout in the list of layouts. -/
structure LayoutEntry where
  hkl : UInt32
  lang : UInt16
  index : UInt16
  layoutId : UInt16
  group : UInt32
  name : String
  active : Bool
  deriving DecidableEq, Repr, Inhabited

/-- The answer to a request, with what the request produced. -/
structure Response where
  id : UInt32
  status : Status := .ok
  error : Option String := none
  root : Option UInt32 := none
  screenWidth : Option UInt16 := none
  screenHeight : Option UInt16 := none
  tables : Option (List UInt8) := none
  groupMask : Option UInt32 := none
  masks : Option Masks := none
  layouts : Option (List LayoutEntry) := none
  deriving DecidableEq, Repr, Inhabited

inductive Message where
  | hello (id version : UInt32) (role : Role)
  | helloAck (id : UInt32) (status : Status) (error : Option String)
  | connect (id : UInt32) (display : String)
  | startInput (id : UInt32) (window : WindowId) (handle : Handle)
  | stopInput (id : UInt32) (window : WindowId)
  | getTables (id : UInt32) (layout : UInt32)
  | listLayouts (id : UInt32)
  | clipCursor (id : UInt32) (rect : Option Rect)
  | setCursorPos (id : UInt32) (x y : Int32)
  | input (id : UInt32) (window : Option Handle) (input : Input)
  | languageChange (id : UInt32) (window : Handle) (hkl : UInt32)
  | lockState (id : UInt32) (locks : Locks)
  | response (r : Response)
  deriving DecidableEq, Repr, Inhabited

namespace Message

def id : Message → UInt32
  | .hello id .. | .helloAck id .. | .connect id .. | .startInput id .. | .stopInput id ..
  | .getTables id .. | .listLayouts id | .clipCursor id .. | .setCursorPos id .. | .input id ..
  | .languageChange id .. | .lockState id .. => id
  | .response r => r.id

end Message

namespace Response

/-- The answer that a request failed, for a reason given by a word. -/
def failure (id : UInt32) (reason : String) : Response :=
  { id, status := .error, error := some reason }

end Response

/-- The version of this protocol. -/
def protocolVersion : UInt32 := 1

end InputBridge
