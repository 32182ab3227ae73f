-- SUMMARY: The broker's state, and the addressing of what seats deliver.
import InputBridge.SharedSeats
import InputBridge.Wire.Message

/-!
# The broker's state

The clients with the seats they are attached to, and who has registered which
window under which handle. Deliveries of a seat are addressed here: what is meant
for a window goes to the client that registered its handle, everything else to
every client attached to the seat.
-/

namespace InputBridge

/-- Names a client connection. Later connections have larger names. -/
abbrev ClientId := Nat

structure BrokerConfig where
  /-- The virtual screen, if it is not to be the root window. -/
  virtualScreen : Option Rect := none
  /-- Whether displays may be connected to at all. -/
  displaysEnabled : Bool := false
  deriving DecidableEq, Repr, Inhabited

/-- A message with the client it is meant for. -/
structure Outbound where
  target : ClientId
  message : Message
  deriving DecidableEq, Repr, Inhabited

structure Broker where
  config : BrokerConfig
  seats : SharedSeats := {}
  /-- The clients that have said hello, with the seats they are attached to. -/
  clients : Assoc ClientId (Option SeatId) := []
  /-- Who registered a window, and under which handle. -/
  windows : Assoc (SeatId × WindowId) (ClientId × Handle) := []
  /-- Who registered a handle. -/
  handles : Assoc (SeatId × Handle) ClientId := []
  deriving Repr, Inhabited

namespace Broker

variable {σ : Type}

/-! ## Looking -/

def isConnected (b : Broker) (c : ClientId) : Bool := b.clients.contains c

/-- The seat that a client is attached to. -/
def seatOf (b : Broker) (c : ClientId) : Option SeatId := (b.clients.get? c).join

/-- The client that registered a window. -/
def ownerOf (b : Broker) (seat : SeatId) (window : WindowId) : Option ClientId :=
  (b.windows.get? (seat, window)).map (·.1)

/-- The virtual screen of a seat. -/
def virtualScreen (b : Broker) (seat : Seat) : Rect :=
  b.config.virtualScreen.getD
    ⟨0, 0, Int32.ofNat seat.link.width.toNat, Int32.ofNat seat.link.height.toNat⟩

/-- Puts an element in its place in an increasing list. -/
def insertOrdered {α : Type} [LE α] [DecidableLE α] (x : α) : List α → List α
  | [] => [x]
  | y :: rest => if x ≤ y then x :: y :: rest else y :: insertOrdered x rest

/-- The clients attached to a seat, in increasing order. -/
def attached (b : Broker) (seat : SeatId) : List ClientId :=
  ((b.clients.filter (·.2 == some seat)).map (·.1)).foldr insertOrdered []

/-! ## Windows -/

/-- Forgets a window, and its handle if that belongs to the same client. -/
def forgetWindow (b : Broker) (seat : SeatId) (window : WindowId) : Broker :=
  match b.windows.get? (seat, window) with
  | none => b
  | some (owner, handle) =>
    { b with
      windows := b.windows.erase (seat, window)
      handles :=
        -- another client may have registered the handle since then
        if b.handles.get? (seat, handle) = some owner then b.handles.erase (seat, handle)
        else b.handles }

/-- Records that a client registered a window under a handle. -/
def ownWindow (b : Broker) (seat : SeatId) (window : WindowId) (handle : Handle)
    (owner : ClientId) : Broker :=
  let b := b.forgetWindow seat window
  { b with
    windows := b.windows.insert (seat, window) (owner, handle)
    handles := b.handles.insert (seat, handle) owner }

/-- The windows of a seat that a client registered, in increasing order. -/
def windowsOf (b : Broker) (seat : SeatId) (owner : ClientId) : List WindowId :=
  let own := b.windows.filterMap fun ((s, window), (o, _)) =>
    if s = seat ∧ o = owner then some window else none
  own.foldr insertOrdered []

/-! ## Clients -/

def addClient (b : Broker) (c : ClientId) : Broker :=
  if b.clients.contains c then b else { b with clients := b.clients.insert c none }

/-- Runs an operation on a seat. -/
def onSeat {α : Type} (b : Broker) (id : SeatId) (seat : Seat)
    (operation : Seat → Talk σ (α × Seat)) : Talk σ (α × Broker) := do
  let (result, seat) ← operation seat
  return (result, { b with seats := b.seats.set id seat })

/-- Stops the input of windows of a seat. -/
def stopWindows (S : DisplayServer σ) (id : SeatId) : List WindowId → Broker → Talk σ Broker
  | [], b => return b
  | window :: windows, b => do
    let b := b.forgetWindow id window
    match b.seats.get? id with
    | none => stopWindows S id windows b
    | some seat =>
      let (_, b) ← b.onSeat id seat (·.stopInput S window)
      stopWindows S id windows b

/-- Detaches a client from its seat: its windows are stopped and the seat is let
go. -/
def detach (S : DisplayServer σ) (b : Broker) (c : ClientId) : Talk σ Broker := do
  match b.seatOf c with
  | none => return b
  | some id =>
    let b := { b with clients := b.clients.insert c none }
    let b ← stopWindows S id (b.windowsOf id c) b
    -- what the windows queued goes out before the seat may be closed
    let b ← match b.seats.get? id with
      | none => pure b
      | some seat => pure { b with seats := b.seats.set id (← seat.flushIfPending S) }
    let (_, seats) ← b.seats.release S id
    return { b with seats }

/-- Forgets a client. -/
def removeClient (S : DisplayServer σ) (b : Broker) (c : ClientId) : Talk σ Broker := do
  let b ← b.detach S c
  return { b with clients := b.clients.erase c }

/-- Attaches a client to the seat of a display in place of the one it has. -/
def attach (S : DisplayServer σ) (b : Broker) (c : ClientId) (display : String) :
    Talk σ (Except SeatError SeatId × Broker) := do
  let b ← b.detach S c
  match ← b.seats.take S display with
  | (.error e, seats) => return (.error e, { b with seats })
  | (.ok id, seats) =>
    return (.ok id, { b with seats, clients := b.clients.insert c (some id) })

/-! ## Deliveries -/

/-- The clients that a delivery is meant for, and the message that carries it. -/
def address (b : Broker) (seat : SeatId) : Delivery → List ClientId × Message
  | .input (some handle) input =>
    ((b.handles.get? (seat, handle)).toList, .input 0 (some handle) input)
  | .input none input => (b.attached seat, .input 0 none input)
  | .language handle hkl =>
    ((b.handles.get? (seat, handle)).toList, .languageChange 0 handle hkl)
  | .locks locks => (b.attached seat, .lockState 0 locks)

/-- Addresses the deliveries of a seat. -/
def route (b : Broker) (seat : SeatId) (deliveries : List Delivery) : List Outbound :=
  deliveries.flatMap fun d =>
    let (targets, message) := b.address seat d
    targets.map fun target => { target, message }

/-- Fails a seat. -/
def markFailed (b : Broker) (seat : SeatId) : Broker :=
  { b with seats := b.seats.markFailed seat }

/-- Handles an event of a seat's display. -/
def dispatch (S : DisplayServer σ) (b : Broker) (id : SeatId) (event : Event) :
    Checked σ (List Outbound × Broker) := do
  match b.seats.get? id with
  | none => return ([], b)
  | some seat =>
    let (seat, deliveries) ← seat.dispatch S (b.virtualScreen seat) event
    let b := { b with seats := b.seats.set id seat }
    -- an event can make the flush after it fail
    let b := if seat.failed then b.markFailed id else b
    return (b.route id deliveries, b)

end Broker

end InputBridge
