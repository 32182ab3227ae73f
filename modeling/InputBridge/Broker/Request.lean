-- SUMMARY: The handlers for the messages of clients, with their answers and what is sent unasked.
import InputBridge.Broker.State

/-!
# Requests to the broker

What the broker does with a message of a client: it changes its state, answers,
and may have more messages to send.
-/

namespace InputBridge

namespace Broker

variable {σ : Type}

/-- The word for the reason why a seat failed a request. -/
def reasonOf : SeatError → String
  | .tableFull => "out_of_memory"
  | .failed => "host_failed"
  | _ => "request_failed"

/-- The answer to a request that a seat carried out. -/
def answerOf (id : UInt32) : Except SeatError Unit → Response
  | .ok _ => { id }
  | .error e => .failure id (reasonOf e)

/-- The seat of a client with its virtual screen, or the answer that there is
none that works. -/
def workingSeat (b : Broker) (id : UInt32) (c : ClientId) :
    Except Response (SeatId × Rect × Seat) :=
  match b.seatOf c with
  | none => .error { id, status := .notSupported }
  | some seatId =>
    match b.seats.get? seatId with
    | none => .error (.failure id "host_failed")
    | some seat =>
      if seat.failed then .error (.failure id "host_failed")
      else .ok (seatId, b.virtualScreen seat, seat)

/-- Runs an operation on a seat, then sends what it queued. -/
def carryOut {α : Type} (S : DisplayServer σ) (b : Broker) (seatId : SeatId) (seat : Seat)
    (operation : Seat → Talk σ (α × Seat)) : Talk σ (α × Broker) :=
  b.onSeat seatId seat fun seat => do
    let (result, seat) ← operation seat
    return (result, ← seat.flushIfPending S)

/-! ## The requests -/

def onHello (b : Broker) (c : ClientId) (id version : UInt32) : Message × Broker :=
  if id ≠ 0 then (.helloAck 0 .error (some "invalid_hello_id"), b)
  else if version ≠ protocolVersion then (.helloAck 0 .error (some "version_mismatch"), b)
  else (.helloAck 0 .ok none, b.addClient c)

def onConnect (S : DisplayServer σ) (b : Broker) (c : ClientId) (id : UInt32) (display : String) :
    Talk σ (Message × List Outbound × Broker) := do
  if !b.config.displaysEnabled then
    return (.response { id, status := .notSupported }, [], b)
  let refused := Message.response (.failure id "host_connect_failed")
  match ← b.attach S c display with
  | (.error _, b) => return (refused, [], b)
  | (.ok seatId, b) =>
    match b.seats.get? seatId with
    | none => return (refused, [], b)
    | some seat =>
      return (.response {
          id
          root := some seat.link.root
          screenWidth := some seat.link.width
          screenHeight := some seat.link.height },
        [⟨c, .lockState 0 seat.keyboard.locks⟩], b)

def onStartInput (S : DisplayServer σ) (b : Broker) (c : ClientId) (id : UInt32)
    (window : WindowId) (handle : Handle) : Talk σ (Response × Broker) := do
  if window = 0 ∨ handle = 0 then return ({ id, status := .invalidParameter }, b)
  match b.workingSeat id c with
  | .error response => return (response, b)
  | .ok (seatId, _, seat) =>
    match ← b.carryOut S seatId seat (·.startInput S window handle) with
    | (.ok _, b) => return ({ id }, b.ownWindow seatId window handle c)
    | (.error e, b) => return (.failure id (reasonOf e), b)

def onStopInput (S : DisplayServer σ) (b : Broker) (c : ClientId) (id : UInt32)
    (window : WindowId) : Talk σ (Response × Broker) := do
  match b.seatOf c with
  | none => return ({ id, status := .notSupported }, b)
  | some seatId =>
    -- the window of another client counts as none
    if b.ownerOf seatId window ≠ some c then return ({ id, status := .notFound }, b)
    -- the record goes in any case, also if the seat has failed
    let b := b.forgetWindow seatId window
    -- a seat that a client has just been attached to is there
    match b.seats.get? seatId with
    | none => return ({ id }, b)
    | some seat =>
      let (_, b) ← b.carryOut S seatId seat (·.stopInput S window)
      return ({ id }, b)

def onGetTables (b : Broker) (c : ClientId) (id layout : UInt32) : Response :=
  match b.workingSeat id c with
  | .error response => response
  | .ok (_, _, seat) =>
    match seat.layouts.findByHkl layout with
    | none => { id, status := .notFound }
    | some l =>
      { id, tables := some l.image, groupMask := some l.groupMask, masks := some l.masks }

/-- A layout as it stands in the list of layouts. -/
def entryOf (layouts : Layouts) (l : Layout) : LayoutEntry where
  hkl := l.hkl
  lang := l.lang
  index := l.index
  layoutId := l.layoutId
  group := l.group
  name := l.name
  active := layouts.active.map (·.group) == some l.group

def onListLayouts (b : Broker) (c : ClientId) (id : UInt32) : Response :=
  match b.workingSeat id c with
  | .error response => response
  | .ok (_, _, seat) => { id, layouts := some (seat.layouts.all.map (entryOf seat.layouts)) }

def onClipCursor (S : DisplayServer σ) (b : Broker) (c : ClientId) (id : UInt32)
    (rect : Option Rect) : Talk σ (Response × Broker) := do
  if rect.any (fun r => r.width ≤ 0 || r.height ≤ 0) then
    return ({ id, status := .invalidParameter }, b)
  match b.workingSeat id c with
  | .error response => return (response, b)
  | .ok (seatId, screen, seat) =>
    let (result, b) ← b.carryOut S seatId seat (·.clip S rect screen)
    return (answerOf id result, b)

def onSetCursorPos (S : DisplayServer σ) (b : Broker) (c : ClientId) (id : UInt32)
    (x y : Int32) : Talk σ (Response × Broker) := do
  match b.workingSeat id c with
  | .error response => return (response, b)
  | .ok (seatId, screen, seat) =>
    let (result, b) ← b.carryOut S seatId seat (·.warp S x y screen)
    return (answerOf id result, b)

/-! ## All messages -/

/-- The answer without more messages. -/
def alone (answer : Response × Broker) : Message × List Outbound × Broker :=
  (.response answer.1, [], answer.2)

/-- Handles a message of a client. What only the broker may say is answered as an
unknown request. -/
def handle (S : DisplayServer σ) (b : Broker) (c : ClientId) :
    Message → Talk σ (Message × List Outbound × Broker)
  | .hello id version _ =>
    let (answer, b) := b.onHello c id version
    return (answer, [], b)
  | .connect id display => b.onConnect S c id display
  | .startInput id window handle => return alone (← b.onStartInput S c id window handle)
  | .stopInput id window => return alone (← b.onStopInput S c id window)
  | .getTables id layout => return alone (b.onGetTables c id layout, b)
  | .listLayouts id => return alone (b.onListLayouts c id, b)
  | .clipCursor id rect => return alone (← b.onClipCursor S c id rect)
  | .setCursorPos id x y => return alone (← b.onSetCursorPos S c id x y)
  | m@(.helloAck ..) | m@(.input ..) | m@(.languageChange ..) | m@(.lockState ..)
  | m@(.response ..) => return alone (.failure m.id "unknown_type", b)

end Broker

end InputBridge
