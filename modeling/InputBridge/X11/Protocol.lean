-- SUMMARY: The requests and errors of the X protocol that the bridge has to do with.
import InputBridge.Text.Dump

/-!
# The X protocol

The requests that are made of an X server, as far as the bridge makes any, and the
errors that they are answered with.
-/

namespace InputBridge

namespace X11

/-! ## Extensions -/

inductive Extension where
  /-- Pointer barriers. -/
  | fixes
  /-- Input devices. -/
  | input
  /-- Keyboards. -/
  | keyboard
  deriving DecidableEq, Repr, Inhabited

namespace Extension

def all : List Extension := [.fixes, .input, .keyboard]

def name : Extension → String
  | .fixes => "XFIXES"
  | .input => "XInputExtension"
  | .keyboard => "XKEYBOARD"

/-- The major opcode of the extension's requests. -/
def opcode : Extension → UInt8
  | .fixes => 140
  | .input => 131
  | .keyboard => 135

/-- The code of the extension's first error. -/
def firstError : Extension → UInt8
  | .fixes => 140
  | .input => 129
  | .keyboard => 137

/-- The extension's errors, from the first on. -/
def errorNames : Extension → List String
  | .fixes => ["XfixesBadRegion"]
  | .input => ["XinputDevice", "XinputEvent", "XinputMode", "XinputDeviceBusy", "XinputClass"]
  | .keyboard => ["XkbKeyboard"]

/-- The code of the extension's first event, apart from generic events. -/
def firstEvent : Extension → UInt8
  | .fixes => 87
  | .input => 66
  | .keyboard => 85

end Extension

/-! ## Requests -/

inductive WireRequest where
  | queryExtension (e : Extension)
  | fixesQueryVersion (major minor : UInt32)
  | inputQueryVersion (major minor : UInt16)
  | selectInputEvents (window : UInt32) (device : UInt16) (masks : List UInt32)
  | queryDevice (device : UInt16)
  | useKeyboard (major minor : UInt16)
  | selectKeyboardEvents (device affected clear all affectedMaps maps : UInt16)
  | getKeyboardState (device : UInt16)
  | internAtom (onlyIfExists : Bool) (name : String)
  | getProperty (delete : Bool) (window property type offset length : UInt32)
  /-- Move the pointer from an area of one window to a place in another. -/
  | warpPointer (source target : UInt32) (x y : Int32) (width height : UInt16) (toX toY : Int32)
  | createBarrier (id window : UInt32) (x1 y1 x2 y2 : UInt16) (directions : UInt32)
      (devices : List UInt16)
  | deleteBarrier (id : UInt32)
  deriving DecidableEq, Repr

namespace WireRequest

/-- The extension that a request belongs to. -/
def extension? : WireRequest → Option Extension
  | .fixesQueryVersion .. | .createBarrier .. | .deleteBarrier _ => some .fixes
  | .inputQueryVersion .. | .selectInputEvents .. | .queryDevice _ => some .input
  | .useKeyboard .. | .selectKeyboardEvents .. | .getKeyboardState _ => some .keyboard
  | .queryExtension _ | .internAtom .. | .getProperty .. | .warpPointer .. => none

/-- The name of a request among those of its extension. -/
def shortName : WireRequest → String
  | .queryExtension _ => "QueryExtension"
  | .fixesQueryVersion .. => "QueryVersion"
  | .inputQueryVersion .. => "XIQueryVersion"
  | .selectInputEvents .. => "XISelectEvents"
  | .queryDevice _ => "XIQueryDevice"
  | .useKeyboard .. => "UseExtension"
  | .selectKeyboardEvents .. => "SelectEvents"
  | .getKeyboardState _ => "GetState"
  | .internAtom .. => "InternAtom"
  | .getProperty .. => "GetProperty"
  | .warpPointer .. => "WarpPointer"
  | .createBarrier .. => "CreatePointerBarrier"
  | .deleteBarrier _ => "DeletePointerBarrier"

/-- The name of a request among all. -/
def name : WireRequest → String
  | r@(.fixesQueryVersion ..) => "XFixes" ++ r.shortName
  | r@(.useKeyboard ..) | r@(.selectKeyboardEvents ..) | r@(.getKeyboardState _) =>
    "Xkb" ++ r.shortName
  | r => r.shortName

def majorOpcode (r : WireRequest) : UInt8 :=
  match r.extension? with
  | some e => e.opcode
  | none =>
    match r with
    | .internAtom .. => 16
    | .getProperty .. => 20
    | .warpPointer .. => 41
    | _ => 98

/-- The opcode of a request among those of its extension. -/
def minorOpcode : WireRequest → UInt16
  | .inputQueryVersion .. => 47
  | .selectInputEvents .. => 46
  | .queryDevice _ => 48
  | .selectKeyboardEvents .. => 1
  | .getKeyboardState _ => 4
  | .createBarrier .. => 31
  | .deleteBarrier _ => 32
  | _ => 0

end WireRequest

/-! ## Errors -/

/-- What a server says is wrong with a request. -/
structure Fault where
  code : UInt8
  badValue : UInt32
  deriving DecidableEq, Repr, Inhabited

/-- The errors of the core protocol, from code 1 on. -/
def coreErrors : List String :=
  ["Request", "Value", "Window", "Pixmap", "Atom", "Cursor", "Font", "Match", "Drawable", "Access",
    "Alloc", "Colormap", "GContext", "IDChoice", "Name", "Length", "Implementation"]

/-- The known extension whose errors may have a code: that with the latest first
error not after it. -/
def extensionOfError (known : List Extension) (code : UInt8) : Option Extension :=
  (known.filter fun e => e.firstError ≤ code).foldl (fun best e =>
    match best with
    | some b => if b.firstError < e.firstError then some e else some b
    | none => some e) none

/-- The name of an error, if the core protocol or a known extension has it. -/
def errorName (known : List Extension) (code : UInt8) : String :=
  let unknown := Dump.call "Unknown" [dump code]
  if code = 0 then unknown
  else
    match coreErrors[code.toNat - 1]? with
    | some name => name
    | none =>
      match extensionOfError known code with
      | some e => (e.errorNames[code.toNat - e.firstError.toNat]?).getD unknown
      | none => unknown

/-- The error that the request with number `seq` is answered with, told to one who
knows some extensions. -/
structure RequestError where
  seq : Nat
  request : WireRequest
  fault : Fault
  known : List Extension
  deriving DecidableEq, Repr

def RequestError.message (e : RequestError) : String :=
  "X11 error " ++ Dump.record "X11Error"
    [("error_kind", errorName e.known e.fault.code),
      ("error_code", dump e.fault.code),
      ("sequence", dump (e.seq % 65536)),
      ("bad_value", dump e.fault.badValue),
      ("minor_opcode", dump e.request.minorOpcode),
      ("major_opcode", dump e.request.majorOpcode),
      ("extension_name", dump (e.request.extension?.map Extension.name)),
      ("request_name", dump (some e.request.shortName))]

end X11

end InputBridge
