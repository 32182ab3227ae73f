-- SUMMARY: Setting a seat up, and handling the events of its display.
import InputBridge.Seat.Cursor
import InputBridge.Seat.Pointing
import InputBridge.Seat.Typing

/-!
# Setting up and driving a seat

A seat is set up by negotiating pointer barriers, pointer and keyboard, building
the layouts, and starting the events. From then on each event of the display
server changes the seat and yields deliveries, unless it is at a position that does
not fit.
-/

namespace InputBridge

namespace Seat

variable {σ : Type}

/-- Sets a seat up over an open link. -/
def setUp (S : DisplayServer σ) (display : String) (link : Link) :
    ExceptT SeatError (Talk σ) Seat := do
  S.demand link .barrierSupport
  let pointer ← S.demand link .pointer
  let device ← S.demand link .keyboard
  let report ← S.demand link (.keyboardReport device)
  let seat : Seat := { display, link, pointer, keyboard := { device, group := report.group } }
  -- a seat cannot begin without layouts, so an error while they are built ends the setup
  let (built, seat) ← seat.rebuildLayouts S
  built
  let (seat, _) := seat.lockModifiers report.lockedModifiers
  S.demand link .startEvents
  S.demand link .flush
  return seat

/-- Opens a display and sets its seat up. If that fails, the link is closed. -/
def connect (S : DisplayServer σ) (display : String) : Talk σ (Except SeatError Seat) := do
  match ← S.connect display with
  | .error reason => return .error (.cannotOpen display reason)
  | .ok link =>
    match ← (setUp S display link).run with
    | .ok seat => return .ok seat
    | .error e =>
      S.disconnect link
      return .error e

/-- What an event does to a seat that has not failed, apart from flushing. -/
def onEvent (S : DisplayServer σ) (s : Seat) (screen : Rect) :
    Event → Checked σ (Seat × List Delivery)
  | .button press time window detail rootX rootY =>
    return (s, ← s.onButton screen press time window detail rootX rootY)
  | .motion _ seq time window rootX rootY =>
    return (s, ← s.onMotion screen seq time window rootX rootY)
  | .rawMotion time _ mask values => return (s, s.onRawMotion time mask values)
  | .deviceChanged device axes => return (s.onDeviceChanged device axes, [])
  | .focus gained window mode detail => return s.onFocus gained window mode detail
  | .key press time window keycode => return (s, s.onKey press time window keycode)
  | .rawKey press time keycode => return (s, s.onRawKey press time keycode)
  | .touch phase time window id rootX rootY =>
    return (s, s.onTouch screen phase time window id rootX rootY)
  | .newKeyboard device => { s with keyboard.device := device }.refreshLayouts S
  | .keymapChanged => s.refreshLayouts S
  | .keyboardState group lockedModifiers =>
    return s.onKeyboardState group.toUInt32 lockedModifiers.toUInt32
  | .error .. => return (s, [])

/-- Handles an event. A failed seat handles none. -/
def dispatch (S : DisplayServer σ) (s : Seat) (screen : Rect) (event : Event) :
    Checked σ (Seat × List Delivery) := do
  if s.failed then return (s, [])
  let (s, deliveries) ← s.onEvent S screen event
  return (← s.flushIfPending S, deliveries)

end Seat

end InputBridge
