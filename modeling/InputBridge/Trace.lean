-- SUMMARY: Events as values, for display servers that are played again.
import InputBridge.Event
import InputBridge.Wire.Record

/-!
# Traces

Events as values, so that what a display server reported can be kept and played
again.
-/

namespace InputBridge

open Wire (Value)

/-! ## Numbers and axes -/

instance : OfValue Fixed32 := ⟨fun v => v.row? Fixed32.mk⟩
instance : ToValue Fixed32 := ⟨fun v => toValue (v.integral, v.frac)⟩

instance : OfValue Axis := ⟨fun v => v.record? "n abs min max" Axis.mk⟩
instance : ToValue Axis := ⟨fun a => .ofFields "n abs min max" (a.number, a.absolute, a.min, a.max)⟩

instance : ToValue PointerDevice := ⟨fun d => .ofFields "id x y" (d.id, d.x, d.y)⟩

/-! ## Events -/

def MotionKind.name : MotionKind → String
  | .motion => "motion"
  | .enter => "enter"
  | .leave => "leave"

def TouchPhase.name : TouchPhase → String
  | .start => "begin"
  | .update => "update"
  | .finish => "end"

/-- One of several, by its name. -/
def byName? {α : Type} (name : α → String) (all : List α) (v : Value) : Option α :=
  all.find? fun x => Value.isName (name x) v

instance : OfValue MotionKind := ⟨byName? MotionKind.name [.motion, .enter, .leave]⟩
instance : OfValue TouchPhase := ⟨byName? TouchPhase.name [.start, .update, .finish]⟩
instance : ToValue MotionKind := ⟨fun k => .text k.name⟩
instance : ToValue TouchPhase := ⟨fun p => .text p.name⟩

instance : OfValue Event := ⟨fun v => do
  match ← (v.field "t").toText? with
  | "button" => v.record? "press time window detail root_x root_y" Event.button
  | "motion" => v.record? "kind seq time window root_x root_y" Event.motion
  | "raw_motion" => v.record? "time device mask values" Event.rawMotion
  | "device_changed" => v.record? "device valuators" Event.deviceChanged
  | "focus" => v.record? "focus_in window mode detail" Event.focus
  | "key" => v.record? "press time window keycode" Event.key
  | "raw_key" => v.record? "press time keycode" Event.rawKey
  | "touch" => v.record? "phase time window id root_x root_y" Event.touch
  | "new_keyboard" => v.record? "device" Event.newKeyboard
  | "keymap_changed" => return .keymapChanged
  | "keyboard_state" => v.record? "group locked_mods" Event.keyboardState
  | "error" => v.record? "code seq resource major minor" Event.error
  | _ => none⟩

instance : ToValue Event := ⟨fun
  | .button press time window detail x y =>
    .ofFields "t press time window detail root_x root_y" ("button", press, time, window, detail, x, y)
  | .motion kind seq time window x y =>
    .ofFields "t kind seq time window root_x root_y" ("motion", kind, seq, time, window, x, y)
  | .rawMotion time device mask values =>
    .ofFields "t time device mask values" ("raw_motion", time, device, mask, values)
  | .deviceChanged device axes => .ofFields "t device valuators" ("device_changed", device, axes)
  | .focus gained window mode detail =>
    .ofFields "t focus_in window mode detail" ("focus", gained, window, mode, detail)
  | .key press time window keycode =>
    .ofFields "t press time window keycode" ("key", press, time, window, keycode)
  | .rawKey press time keycode => .ofFields "t press time keycode" ("raw_key", press, time, keycode)
  | .touch phase time window id x y =>
    .ofFields "t phase time window id root_x root_y" ("touch", phase, time, window, id, x, y)
  | .newKeyboard device => .ofFields "t device" ("new_keyboard", device)
  | .keymapChanged => .ofFields "t" "keymap_changed"
  | .keyboardState group locked =>
    .ofFields "t group locked_mods" ("keyboard_state", group, locked)
  | .error code seq resource major minor =>
    .ofFields "t code seq resource major minor" ("error", code, seq, resource, major, minor)⟩

end InputBridge
