-- SUMMARY: Events of a display server, and the window that an event is for.
import InputBridge.FixedPoint

/-!
# Events of a display server

What a display server reports, reduced to what the bridge uses. Positions are
16.16 fixed point relative to the root window.
-/

namespace InputBridge

/-! ## Axes -/

/-- One axis of a pointer device with its range. -/
structure Axis where
  number : UInt16
  absolute : Bool
  min : Fixed32
  max : Fixed32
  deriving DecidableEq, Repr, Inhabited

/-- The pointer, with the axes for horizontal and vertical motion that it has. -/
structure PointerDevice where
  id : UInt16
  x : Option Axis
  y : Option Axis
  deriving DecidableEq, Repr, Inhabited

/-- Axis 0 is the horizontal one and axis 1 the vertical one. -/
def PointerDevice.ofAxes (id : UInt16) (axes : List Axis) : PointerDevice where
  id
  x := axes.find? (·.number == 0)
  y := axes.find? (·.number == 1)

/-! ## Events -/

inductive MotionKind where
  | motion
  | enter
  | leave
  deriving DecidableEq, Repr, Inhabited

inductive TouchPhase where
  | start
  | update
  | finish
  deriving DecidableEq, Repr, Inhabited

inductive Event where
  | button (press : Bool) (time window detail : UInt32) (rootX rootY : Int32)
  | motion (kind : MotionKind) (seq : UInt64) (time window : UInt32) (rootX rootY : Int32)
  | rawMotion (time : UInt32) (device : UInt16) (mask : List UInt32) (values : List Fixed32)
  | deviceChanged (device : UInt16) (axes : List Axis)
  | focus (gained : Bool) (window : UInt32) (mode detail : UInt8)
  | key (press : Bool) (time window keycode : UInt32)
  | rawKey (press : Bool) (time keycode : UInt32)
  | touch (phase : TouchPhase) (time window id : UInt32) (rootX rootY : Int32)
  | newKeyboard (device : UInt8)
  | keymapChanged
  | keyboardState (group : UInt8) (lockedModifiers : UInt16)
  | error (code : UInt8) (seq : UInt64) (resource : UInt32) (major : UInt8) (minor : UInt16)
  deriving DecidableEq, Repr, Inhabited

/-! ## Notices -/

/-- What the connection to a display reports. -/
inductive Notice where
  | event (e : Event)
  /-- The connection is lost. -/
  | failed (reason : String)
  deriving DecidableEq, Repr, Inhabited

end InputBridge
