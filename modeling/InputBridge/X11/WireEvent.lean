-- SUMMARY: Events of the X protocol, and the events of the bridge that they stand for.
import InputBridge.Event

/-!
# Events on the wire

The events of the X protocol and of its input and keyboard extensions, with the
fields that matter here, and the events of the bridge that they stand for. An
error of a request arrives like an event.
-/

namespace InputBridge

namespace X11

/-! ## Devices -/

/-- What an input device can do. Of an axis, mode 1 is the absolute one. -/
inductive DeviceClass where
  | keys
  | buttons
  | axis (number : UInt16) (mode : UInt8) (min max : Fixed32)
  | scroll
  | touch
  deriving DecidableEq, Repr, Inhabited

def DeviceClass.axis? : DeviceClass → Option Axis
  | .axis number mode min max => some { number, absolute := mode == 1, min, max }
  | _ => none

/-- The axes among the classes of a device. -/
def axes (classes : List DeviceClass) : List Axis := classes.filterMap DeviceClass.axis?

/-! ## Events -/

/-- What a key, a button, the pointer or a touch contact did in a window. -/
structure DeviceEvent where
  time : UInt32
  detail : UInt32
  window : UInt32
  rootX : Int32
  rootY : Int32
  deriving DecidableEq, Repr, Inhabited

/-- That the pointer or the focus has crossed the border of a window. -/
structure CrossingEvent where
  time : UInt32
  window : UInt32
  rootX : Int32
  rootY : Int32
  mode : UInt8
  detail : UInt8
  deriving DecidableEq, Repr, Inhabited

/-- What a device did, whatever window is under it. -/
structure RawEvent where
  device : UInt16
  time : UInt32
  detail : UInt32
  mask : List UInt32
  values : List Fixed32
  deriving DecidableEq, Repr, Inhabited

inductive WireEvent where
  | buttonPress (e : DeviceEvent)
  | buttonRelease (e : DeviceEvent)
  | motion (e : DeviceEvent)
  | keyPress (e : DeviceEvent)
  | keyRelease (e : DeviceEvent)
  | touchBegin (e : DeviceEvent)
  | touchUpdate (e : DeviceEvent)
  | touchEnd (e : DeviceEvent)
  | enter (e : CrossingEvent)
  | leave (e : CrossingEvent)
  | focusIn (e : CrossingEvent)
  | focusOut (e : CrossingEvent)
  | rawKeyPress (e : RawEvent)
  | rawKeyRelease (e : RawEvent)
  | rawMotion (e : RawEvent)
  | deviceChanged (device : UInt16) (classes : List DeviceClass)
  | newKeyboard (device : UInt8)
  | keymapChanged
  | keyboardState (group : UInt8) (lockedModifiers : UInt16)
  | error (code : UInt8) (resource : UInt32) (major : UInt8) (minor : UInt16)
  /-- Any other event. -/
  | other
  deriving DecidableEq, Repr, Inhabited

namespace DeviceEvent

def toButton (e : DeviceEvent) (press : Bool) : Event :=
  .button press e.time e.window e.detail e.rootX e.rootY

def toKey (e : DeviceEvent) (press : Bool) : Event := .key press e.time e.window e.detail

def toTouch (e : DeviceEvent) (phase : TouchPhase) : Event :=
  .touch phase e.time e.window e.detail e.rootX e.rootY

end DeviceEvent

namespace CrossingEvent

def toMotion (e : CrossingEvent) (kind : MotionKind) (seq : UInt64) : Event :=
  .motion kind seq e.time e.window e.rootX e.rootY

def toFocus (e : CrossingEvent) (gained : Bool) : Event := .focus gained e.window e.mode e.detail

end CrossingEvent

/-- The event of the bridge that an event received with number `seq` stands for. -/
def WireEvent.toEvent? (seq : UInt64) : WireEvent → Option Event
  | .buttonPress e => some (e.toButton true)
  | .buttonRelease e => some (e.toButton false)
  | .motion e => some (.motion .motion seq e.time e.window e.rootX e.rootY)
  | .keyPress e => some (e.toKey true)
  | .keyRelease e => some (e.toKey false)
  | .touchBegin e => some (e.toTouch .start)
  | .touchUpdate e => some (e.toTouch .update)
  | .touchEnd e => some (e.toTouch .finish)
  | .enter e => some (e.toMotion .enter seq)
  | .leave e => some (e.toMotion .leave seq)
  | .focusIn e => some (e.toFocus true)
  | .focusOut e => some (e.toFocus false)
  | .rawKeyPress e => some (.rawKey true e.time e.detail)
  | .rawKeyRelease e => some (.rawKey false e.time e.detail)
  | .rawMotion e => some (.rawMotion e.time e.device e.mask e.values)
  | .deviceChanged device classes => some (.deviceChanged device (axes classes))
  | .newKeyboard device => some (.newKeyboard device)
  | .keymapChanged => some .keymapChanged
  | .keyboardState group lockedModifiers => some (.keyboardState group lockedModifiers)
  | .error code resource major minor => some (.error code seq resource major minor)
  | .other => none

end X11

end InputBridge
