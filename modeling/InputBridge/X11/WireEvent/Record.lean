-- SUMMARY: Events of the X protocol as values.
import InputBridge.Trace
import InputBridge.X11.WireEvent

/-!
# Wire events as values

How the events of a recorded session are written down: the name of the event and
the fields that it has. What is left out is zero or empty.
-/

namespace InputBridge

namespace X11

open Wire (Value)

instance : OfValue DeviceClass := ⟨fun v =>
  match v with
  | .text "key" => some .keys
  | .text "button" => some .buttons
  | .text "scroll" => some .scroll
  | .text "touch" => some .touch
  | v => v.record? "n mode min max" DeviceClass.axis⟩

instance : OfValue DeviceEvent := ⟨fun v => v.record? "time detail event root_x root_y" DeviceEvent.mk⟩

instance : OfValue CrossingEvent :=
  ⟨fun v => v.record? "time event root_x root_y mode detail" CrossingEvent.mk⟩

instance : OfValue RawEvent := ⟨fun v => v.record? "deviceid time detail mask values" RawEvent.mk⟩

instance : OfValue WireEvent := ⟨fun v => do
  match ← (v.field "x").toText? with
  | "button_press" => .buttonPress <$> ofValue? v
  | "button_release" => .buttonRelease <$> ofValue? v
  | "motion" => .motion <$> ofValue? v
  | "key_press" => .keyPress <$> ofValue? v
  | "key_release" => .keyRelease <$> ofValue? v
  | "touch_begin" => .touchBegin <$> ofValue? v
  | "touch_update" => .touchUpdate <$> ofValue? v
  | "touch_end" => .touchEnd <$> ofValue? v
  | "enter" => .enter <$> ofValue? v
  | "leave" => .leave <$> ofValue? v
  | "focus_in" => .focusIn <$> ofValue? v
  | "focus_out" => .focusOut <$> ofValue? v
  | "raw_key_press" => .rawKeyPress <$> ofValue? v
  | "raw_key_release" => .rawKeyRelease <$> ofValue? v
  | "raw_motion" => .rawMotion <$> ofValue? v
  | "device_changed" => v.record? "deviceid classes" WireEvent.deviceChanged
  | "new_keyboard" => v.record? "deviceid" WireEvent.newKeyboard
  | "map_notify" => some .keymapChanged
  | "state_notify" => v.record? "group locked_mods" WireEvent.keyboardState
  | "error" => v.record? "error_code bad_value major minor" WireEvent.error
  | _ => some .other⟩

end X11

end InputBridge
