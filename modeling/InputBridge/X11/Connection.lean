-- SUMMARY: Connections to an X server: the queue of requests, extensions, replies and what comes unasked.
import InputBridge.Event
import InputBridge.X11.EventBytes
import InputBridge.X11.Server

/-!
# Connections to an X server

Requests are numbered as they are made, and queued; the queue goes to the server
when it is flushed or an answer is waited for. Before the first request of an
extension, the connection waits to hear whether the server has it; this was asked
for when the connection was opened. A broken connection fails everything that is
made of it from then on.
-/

namespace InputBridge

namespace X11

/-! ## Errors -/

/-- Why the connection does not carry a request, or what is not understood. -/
inductive ConnectionError where
  | unsupported
  | broken
  /-- There are less bytes than there should be. -/
  | short
  deriving DecidableEq, Repr

def ConnectionError.message : ConnectionError → String
  | .unsupported => "Unsupported extension"
  | .broken => "Unknown connection error"
  | .short => "Insufficient data was provided"

/-- Why a request has no reply. -/
inductive ReplyError where
  | connection (e : ConnectionError)
  | request (e : RequestError)
  deriving DecidableEq, Repr

def ReplyError.message : ReplyError → String
  | .connection e => e.message
  | .request e => e.message

/-! ## Connections -/

/-- What is known of an extension. -/
inductive ExtensionState where
  /-- The server is being asked. -/
  | asked
  /-- The server has answered, and nobody has looked. -/
  | answered (answer : Except Fault Bool)
  | present
  | missing
  /-- The question has failed. -/
  | unknown
  deriving Repr, Inhabited

/-- What a server sends unasked: an event as it is, or its bytes. -/
inductive Packet where
  | event (e : WireEvent)
  | bytes (b : List UInt8)
  deriving DecidableEq, Repr, Inhabited

/-- What is written down of the traffic with an X server. -/
inductive Entry where
  | connect (display : Option String)
  | disconnect
  /-- The number of the core keyboard is looked up. -/
  | coreKeyboard
  /-- The keymap of a device is compiled. -/
  | compileKeymap (device : UInt8)
  /-- A request has reached the server. -/
  | request (seq : Nat) (r : WireRequest)
  deriving DecidableEq, Repr

structure Connection where
  root : UInt32 := 0
  nextSeq : Nat := 1
  /-- Requests that have not gone to the server yet, the oldest first. -/
  queue : List (Nat × WireRequest) := []
  /-- The number of the last request that has gone to the server. -/
  lastSent : Nat := 0
  extensions : Assoc Extension ExtensionState := []
  nextId : UInt32 := 0x400000
  isBroken : Bool := false
  /-- What the server has sent unasked and nobody has read, with the number of the
  last request before it. -/
  incoming : List (Nat × Packet) := []
  /-- What has been read of that and nobody has taken. -/
  events : List (Nat × Packet) := []
  /-- How many threads take events. -/
  listeners : Nat := 0
  /-- Nobody takes what the listeners report. -/
  isDeaf : Bool := false
  /-- What the listeners have reported, the oldest first. -/
  notices : List Notice := []
  deriving Repr, Inhabited

/-- A connection with the server at its other end. -/
structure Exchange where
  server : Server
  connection : Connection
  /-- What was written down, the latest first. -/
  log : List Entry := []
  deriving Repr, Inhabited

/-- Something that goes on between a connection and its server. -/
abbrev Traffic := StateM Exchange

namespace Connection

/-- Reads what has come from the server. -/
def read (c : Connection) : Connection :=
  { c with events := c.events ++ c.incoming, incoming := [] }

/-- The extensions that the server is known to have. -/
def known (c : Connection) : List Extension :=
  c.extensions.filterMap fun
    | (e, .present) => some e
    | _ => none

end Connection

namespace Traffic

def note (entry : Entry) : Traffic Unit := modify fun w => { w with log := entry :: w.log }

def change (f : Connection → Connection) : Traffic Unit := modify fun w =>
  { w with connection := f w.connection }

/-! ## The queue -/

/-- A request reaches the server. -/
def deliver (seq : Nat) (r : WireRequest) : Traffic Unit := do
  note (.request seq r)
  change ({ · with lastSent := seq })
  match r with
  | .queryExtension e =>
    let answer := (← get).server.answer (.queryExtension e)
    change fun c => { c with extensions := c.extensions.insert e (.answered answer) }
  | _ => return

/-- Sends what is queued. -/
def flushQueue : Traffic Unit := do
  let queue := (← get).connection.queue
  change ({ · with queue := [] })
  queue.forM fun (seq, r) => deliver seq r

/-- Sends what is queued and waits for the server's answer. What comes before the answer is
read with it. -/
def wait : Traffic Unit := do
  flushQueue
  change (·.read)

/-- Sends what is queued, unless the connection is broken. -/
def flush : Traffic (Except ConnectionError Unit) := do
  if (← get).connection.isBroken then return .error .broken
  flushQueue
  return .ok ()

/-- Queues a request; the result is its number. -/
def enqueue (r : WireRequest) : Traffic Nat := fun w =>
  let c := w.connection
  (c.nextSeq,
    { w with connection := { c with nextSeq := c.nextSeq + 1, queue := c.queue ++ [(c.nextSeq, r)] } })

/-! ## Extensions -/

/-- What the server's answer says of an extension. -/
def stateOfAnswer : Except Fault Bool → ExtensionState
  | .ok true => .present
  | .ok false => .missing
  | .error _ => .unknown

/-- Waits for the server's word on an extension, if it was not waited for before. -/
def learn (e : Extension) : Traffic ExtensionState := do
  let w ← get
  let state := (w.connection.extensions.get? e).getD .unknown
  let learned ←
    match state with
    | .asked | .answered _ =>
      if w.connection.isBroken then pure ExtensionState.unknown
      else
        wait
        match (← get).connection.extensions.get? e with
        | some (.answered answer) => pure (stateOfAnswer answer)
        | _ => pure .unknown
    | state => pure state
  change fun c => { c with extensions := c.extensions.insert e learned }
  return learned

/-- Makes sure that the server has the extension of a request. -/
def require (r : WireRequest) : Traffic (Except ConnectionError Unit) := do
  match r.extension? with
  | none => return .ok ()
  | some e =>
    match ← learn e with
    | .present => return .ok ()
    | .missing => return .error .unsupported
    | _ => return .error .broken

/-! ## Requests -/

/-- Makes a request. -/
def send (r : WireRequest) : Traffic (Except ConnectionError Nat) := do
  match ← require r with
  | .error e => return .error e
  | .ok _ =>
    if (← get).connection.isBroken then return .error .broken
    return .ok (← enqueue r)

/-- Waits for the reply to the request with number `seq`, the last that was made. -/
def await (seq : Nat) (r : WireRequest) : Traffic (Except ReplyError r.Reply) := do
  wait
  let w ← get
  return (w.server.answer r).mapError fun fault =>
    .request { seq, request := r, fault, known := w.connection.known }

/-- Makes a request and waits for its reply, or for word that there is no error. -/
def call (r : WireRequest) : Traffic (Except ReplyError r.Reply) := do
  match ← send r with
  | .error e => return .error (.connection e)
  | .ok seq => await seq r

/-- Makes a request without waiting for more than its number. If the traffic is traced there is
a wait for errors, though they are passed over all the same. -/
def post (traced : Bool) (r : WireRequest) : Traffic (Except ConnectionError Nat) := do
  match ← send r with
  | .error e => return .error e
  | .ok seq =>
    if traced then wait
    return .ok seq

/-- Makes an id for a new resource. -/
def newId : Traffic (Except ConnectionError UInt32) := do
  let c := (← get).connection
  if c.isBroken then return .error .broken
  change fun c => { c with nextId := c.nextId + 1 }
  return .ok c.nextId

end Traffic

end X11

end InputBridge
