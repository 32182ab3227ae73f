-- SUMMARY: The daemon's state, its steps in any order, and going on until nothing is left to do.
import InputBridge.Broker.Request
import InputBridge.Daemon.Session

/-!
# The daemon

The broker at work among its clients. Sessions, the displays and the broker's loop
run on their own and leave things for one another: requests, notices of displays,
and word that a session has ended. Each step is one of them going on by as much as
nothing can come in between; which of them does is left open, so that whatever is
shown of all sequences of steps holds for every interleaving.
-/

namespace InputBridge

open Daemon (Session)

structure Daemon where
  broker : Broker
  /-- The sessions of all clients that ever came, also of those that have left. -/
  sessions : Assoc ClientId Session := []
  nextClient : ClientId := 0
  /-- Requests for the broker, the oldest first. -/
  requests : List (ClientId × Message) := []
  /-- What displays have reported, the oldest first. -/
  notices : List (SeatId × Notice) := []
  /-- The clients whose sessions have ended, in that order. -/
  departures : List ClientId := []
  deriving Repr, Inhabited

namespace Daemon

variable {σ : Type}

/-- A step of the daemon or of what is around it. -/
inductive Action where
  /-- A client comes. -/
  | accept
  /-- Bytes come from a client. -/
  | arrive (c : ClientId) (bytes : List UInt8)
  /-- A client stops to send. -/
  | hangUp (c : ClientId)
  /-- A client leaves. -/
  | leave (c : ClientId)
  /-- A display reports something. -/
  | report (seat : SeatId) (notice : Notice)
  /-- A session takes a frame. -/
  | read (c : ClientId)
  /-- A session writes the broker's answer. -/
  | writeAnswer (c : ClientId)
  /-- A session writes what was not asked for. -/
  | writePush (c : ClientId)
  /-- The broker handles a request. -/
  | handleRequest
  /-- The broker handles what a display has reported. -/
  | handleNotice
  /-- The broker forgets a client whose session has ended. -/
  | handleDeparture
  deriving DecidableEq, Repr, Inhabited

/-! ## Sessions -/

/-- Lets a session go on, and hears of its end. -/
def onSession (d : Daemon) (c : ClientId) (f : Session → Session × Option Message) : Daemon :=
  match d.sessions.get? c with
  | none => d
  | some s =>
    let (s', request) := f s
    { d with
      sessions := d.sessions.insert c s'
      requests := d.requests ++ (request.map fun m => (c, m)).toList
      -- the end of a session is told once
      departures := d.departures ++ if s.phase ≠ .ended ∧ s'.phase = .ended then [c] else [] }

/-- Changes a session that goes on all the same. -/
def change (d : Daemon) (c : ClientId) (f : Session → Session) : Daemon :=
  match d.sessions.get? c with
  | none => d
  | some s => { d with sessions := d.sessions.insert c (f s) }

/-- Leaves messages for the sessions of the clients that they are meant for. A
session that has ended takes none. -/
def deliver (d : Daemon) (out : List Outbound) : Daemon :=
  out.foldl (fun d o => d.change o.target fun s =>
    if s.phase = .ended then s else { s with pushes := s.pushes ++ [o.message] }) d

/-! ## The broker's loop -/

def handleRequest (S : DisplayServer σ) (d : Daemon) : Talk σ Daemon := do
  match d.requests with
  | [] => return d
  | (c, m) :: requests =>
    let (answer, out, broker) ← d.broker.handle S c m
    let d := { d with broker, requests }
    return (d.change c fun s => { s with answer := some answer }).deliver out

def handleNotice (S : DisplayServer σ) (d : Daemon) : Checked σ Daemon := do
  match d.notices with
  | [] => return d
  | (seat, .event e) :: notices =>
    let (out, broker) ← d.broker.dispatch S seat e
    return { d with broker, notices }.deliver out
  | (seat, .failed _) :: notices =>
    return { d with broker := d.broker.markFailed seat, notices }

def handleDeparture (S : DisplayServer σ) (d : Daemon) : Talk σ Daemon := do
  match d.departures with
  | [] => return d
  | c :: departures => return { d with broker := ← d.broker.removeClient S c, departures }

/-! ## Steps -/

/-- A step. One that is not possible changes nothing, and after an overflow there is no
daemon any more. -/
def step (S : DisplayServer σ) (d : Daemon) : Action → Checked σ Daemon
  | .accept => return { d with
      sessions := d.sessions.insert d.nextClient {}, nextClient := d.nextClient + 1 }
  | .arrive c bytes => return d.change c fun s => { s with reader := s.reader.feed bytes }
  | .hangUp c => return d.change c fun s => { s with hungUp := true }
  | .leave c => return d.change c fun s => { s with hungUp := true, gone := true }
  | .report seat notice => return { d with notices := d.notices ++ [(seat, notice)] }
  | .read c => return d.onSession c Session.read
  | .writeAnswer c => return d.onSession c fun s => (s.writeAnswer, none)
  | .writePush c => return d.onSession c fun s => (s.writePush, none)
  | .handleRequest => d.handleRequest S
  | .handleNotice => d.handleNotice S
  | .handleDeparture => d.handleDeparture S

def run (S : DisplayServer σ) (d : Daemon) (actions : List Action) : Checked σ Daemon :=
  actions.foldlM (step S) d

/-! ## Coming to rest -/

/-- Lets every session take a frame, the broker do what there is to do, and every
session write what there is to write. -/
def round (S : DisplayServer σ) (d : Daemon) : Checked σ Daemon := do
  let clients := d.sessions.map (·.1)
  let d ← d.run S (clients.map .read)
  let d ← d.run S (.replicate d.requests.length .handleRequest)
  let d ← d.run S (.replicate d.notices.length .handleNotice)
  let d ← d.run S (.replicate d.departures.length .handleDeparture)
  let d ← d.run S (clients.map .writeAnswer)
  d.run S (d.sessions.flatMap fun (c, s) => .replicate s.pushes.length (.writePush c))

/-- Rounds, one after the other. -/
def rounds (S : DisplayServer σ) : (limit : Nat) → Daemon → Checked σ Daemon
  | 0, d => return d
  | limit + 1, d => do rounds S limit (← d.round S)

/-- How many rounds it can take until nothing is left to do: a session takes no
more frames than it has bytes, and one after that to see that the client has hung
up. -/
def roundsToRest (d : Daemon) : Nat :=
  (d.sessions.map fun (_, s) => s.reader.buffer.length).foldr max 0 + 3

/-- Goes on until nothing is left to do. -/
def settle (S : DisplayServer σ) (d : Daemon) : Checked σ Daemon := rounds S d.roundsToRest d

/-- Closes what is open on the displays. -/
def stop (S : DisplayServer σ) (d : Daemon) : Talk σ Unit :=
  d.broker.seats.seats.forM fun (_, shared) => S.disconnect shared.seat.link

end Daemon

end InputBridge
