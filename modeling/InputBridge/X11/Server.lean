-- SUMMARY: What an X server has, and how it answers requests.
import InputBridge.Assoc
import InputBridge.Keyboard.Keymap
import InputBridge.ScriptedServer
import InputBridge.X11.Protocol
import InputBridge.X11.WireEvent

/-!
# X servers

What an X server has and how it answers. The keymap of a device is what compiling
it gives.
-/

namespace InputBridge

namespace X11

/-! ## Keymaps -/

/-- A key in one layout: its symbols, and a code point for each level. -/
structure CompiledKey where
  symbols : List UInt32 := []
  codes : List UInt32 := []
  /-- Caps Lock turns Shift around. -/
  capsInvertsShift : Bool := false
  deriving DecidableEq, Repr, Inhabited

structure CompiledKeymap where
  minKeycode : UInt32 := 8
  maxKeycode : UInt32 := 255
  /-- The names of the layouts. -/
  layouts : List (Option String) := [some "English (US)"]
  /-- The keys, each with what it is in the layouts. -/
  keys : Assoc UInt32 (List CompiledKey) := []
  /-- The places of the modifiers in a mask. -/
  modifiers : Assoc String UInt32 :=
    [("Shift", 0), ("Lock", 1), ("Control", 2), ("Mod1", 3), ("Mod2", 4), ("Mod3", 5), ("Mod4", 6),
      ("Mod5", 7)]
  /-- The names of symbols. -/
  names : Assoc UInt32 String := []
  deriving DecidableEq, Repr, Inhabited

namespace CompiledKeymap

/-- A key in a layout. Layouts beyond the key's own count from the first again. -/
def key? (k : CompiledKeymap) (keycode layout : UInt32) : Option CompiledKey :=
  let forms := (k.keys.get? keycode).getD []
  forms[layout.toNat % forms.length]?

/-- The longest name of a symbol that is told. -/
def maxNameSize : Nat := 63

/-- The name of a symbol, or else its number. -/
def nameOf (k : CompiledKeymap) (symbol : UInt32) : String :=
  match k.names.get? symbol with
  | none => Text.hex 8 symbol.toNat
  | some name => Text.Utf8.decodeLenient ((Text.Utf8.encode name).take maxNameSize)

def notEmpty (s : String) : Option String := if s.isEmpty then none else some s

/-- The character with a code point. There is none with the code point 0. -/
def charOf? (code : UInt32) : Option Char :=
  if h : code.isValidChar ∧ code ≠ 0 then some ⟨code, h.1⟩ else none

def toKeymap (k : CompiledKeymap) : Keymap where
  minKeycode := k.minKeycode
  maxKeycode := k.maxKeycode
  groups := UInt32.ofNat k.layouts.length
  groupName g := (k.layouts[g.toNat]?).join.bind notEmpty
  symbolName keycode g :=
    ((k.key? keycode g).bind (·.symbols.head?)).bind fun symbol => notEmpty (k.nameOf symbol)
  modifierMask name :=
    match k.modifiers.get? name with
    | some i => if i < 32 then 1 <<< i else 0
    | none => 0
  character keycode g modifiers := do
    let key ← k.key? keycode g
    charOf? (← key.codes[levelOf key.capsInvertsShift modifiers]?)

end CompiledKeymap

/-! ## Servers -/

/-- A screen's root window and its size. -/
structure Screen where
  root : UInt32
  width : UInt16
  height : UInt16
  deriving DecidableEq, Repr, Inhabited

/-- An input device. Type 1 is the master pointer. -/
structure DeviceInfo where
  id : UInt16
  type : UInt16
  classes : List DeviceClass
  deriving DecidableEq, Repr, Inhabited

/-- A property of the root window. -/
structure Property where
  format : UInt8 := 8
  bytes : List UInt8 := []
  deriving DecidableEq, Repr, Inhabited

/-- What a server says of its keyboard extension: whether the version asked for is
supported, and which it has. -/
structure KeyboardSupport where
  supported : Bool
  major : UInt16
  minor : UInt16
  deriving DecidableEq, Repr, Inhabited

/-- A device that can be relative in an axis has no range in it. -/
def relativeAxis (number : UInt16) : DeviceClass := .axis number 0 ⟨-1, 0⟩ ⟨-1, 0⟩

structure Server where
  /-- The error on which connecting ends; 0 is none. -/
  connectError : Int := 0
  /-- The number of the screen that the display's name asks for. -/
  screen : Int := 0
  roots : List Screen := [⟨256, 1920, 1080⟩]
  missing : List String := []
  fixesVersion : UInt32 × UInt32 := (5, 0)
  inputVersion : UInt16 × UInt16 := (2, 2)
  keyboardSupport : KeyboardSupport := ⟨true, 1, 0⟩
  devices : List DeviceInfo :=
    [⟨2, 1, [.buttons, relativeAxis 0, relativeAxis 1]⟩, ⟨3, 2, [.keys]⟩]
  /-- How many devices are told to be in a list of devices, if not all. -/
  claimedDevices : Option Nat := none
  /-- The number of the core keyboard. -/
  coreKeyboard : Int := 3
  /-- The atom of any name. -/
  atom : UInt32 := 300
  property : Property := {}
  group : UInt8 := 0
  lockedModifiers : UInt8 := 0
  /-- The requests that are answered with an error, by name. -/
  faults : Assoc String Fault := []
  keymap : CompiledKeymap := {}
  deriving DecidableEq, Repr, Inhabited

/-- What a request is answered with if it is granted. -/
abbrev WireRequest.Reply : WireRequest → Type
  | .queryExtension _ => Bool
  | .fixesQueryVersion .. => UInt32
  | .inputQueryVersion .. => UInt16
  | .queryDevice _ => Option (List DeviceInfo)
  | .useKeyboard .. => KeyboardSupport
  | .getKeyboardState _ => UInt8 × UInt8
  | .internAtom .. => UInt32
  | .getProperty .. => Property
  | _ => Unit

namespace Server

/-- The devices in a list of devices. A list that is told to have more than it has
cannot be read. -/
def deviceList (s : Server) : Option (List DeviceInfo) :=
  let claimed := s.claimedDevices.getD s.devices.length
  if s.devices.length < claimed then none else some (s.devices.take claimed)

/-- The reply to a request that is granted. A property is given up to as many
units of four bytes as were asked for. -/
def reply (s : Server) : (r : WireRequest) → r.Reply
  | .queryExtension e => !s.missing.contains e.name
  | .fixesQueryVersion .. => s.fixesVersion.1
  | .inputQueryVersion .. => s.inputVersion.1
  | .queryDevice _ => s.deviceList
  | .useKeyboard .. => s.keyboardSupport
  | .getKeyboardState _ => (s.group, s.lockedModifiers)
  | .internAtom .. => s.atom
  | .getProperty _ _ _ _ _ length =>
    { s.property with bytes := s.property.bytes.take (4 * length.toNat) }
  | .selectInputEvents .. => ()
  | .selectKeyboardEvents .. => ()
  | .warpPointer .. => ()
  | .createBarrier .. => ()
  | .deleteBarrier _ => ()

def answer (s : Server) (r : WireRequest) : Except Fault r.Reply :=
  match s.faults.get? r.name with
  | some fault => .error fault
  | none => .ok (s.reply r)

end Server

end X11

end InputBridge
