-- SUMMARY: A client's side of the conversation: requests with their ids, responses, and the queue of what comes unasked.
import InputBridge.Keyboard.Tables
import InputBridge.Overflow
import InputBridge.Wire.Frame
import InputBridge.Wire.Message.Dump

/-!
# A client's conversation with the broker

A client sends requests one at a time and waits for the answer to each. What the
broker says unasked in the meantime is kept until it is wanted. Nothing is assumed
of what the broker says: it is a list of things in the order of their arrival.
-/

namespace InputBridge

/-! ## What arrives -/

/-- Why the connection to the broker did not carry a message. -/
inductive LineError where
  | tooLarge (e : Frame.TooLarge)
  | undecodable
  /-- The connection ended in the middle of a frame. -/
  | leftover
  /-- The broker does not read any more. -/
  | brokenPipe
  deriving DecidableEq, Repr

def LineError.message : LineError → String
  | .tooLarge e => e.message
  | .undecodable => "MessagePack decode error: invalid message"
  | .leftover => "I/O error: bytes remaining on stream"
  | .brokenPipe => "I/O error: Broken pipe (os error 32)"

open Dump (record call) in
instance : Dump LineError := ⟨fun
  | .tooLarge e => call "PayloadTooLarge" [dump e.size]
  | .undecodable => call "Decode" [Text.quoted "invalid message"]
  | .leftover => call "Io"
    [record "Custom" [("kind", "Other"), ("error", Text.quoted "bytes remaining on stream")]]
  | .brokenPipe => call "Io"
    [record "Os"
      [("code", "32"), ("kind", "BrokenPipe"), ("message", Text.quoted "Broken pipe")]]⟩

/-- What a client finds when it looks for the next message. -/
inductive Incoming where
  | message (m : Message)
  | failed (e : LineError)
  /-- The broker has hung up. -/
  | ended
  deriving DecidableEq, Repr

instance : Dump Incoming := ⟨fun
  | .message m => Dump.call "Some" [Dump.call "Ok" [dump m]]
  | .failed e => Dump.call "Some" [Dump.call "Err" [dump e]]
  | .ended => "None"⟩

/-- What is found in the bytes that a broker sends until it hangs up. -/
def Incoming.ofBytes (bytes : List UInt8) : List Incoming :=
  let (messages, e, r) := (({} : Frame.Reader).feed bytes).allMessages
  messages.map .message ++
    match e with
    | some (.tooLarge e) => [.failed (.tooLarge e)]
    | some .undecodable => [.failed .undecodable]
    | none => if r.buffer.isEmpty then [] else [.failed .leftover]

/-! ## Errors of a client -/

/-- Why a client does not reach its end. -/
inductive ClientError where
  | noSocket
  | unreachable (path reason : String)
  /-- The hello could not be sent. -/
  | notGreeted (e : LineError)
  | rejected (reason : Option String)
  /-- The answer to the hello is something else. -/
  | noHandshake (found : Incoming)
  /-- The request `what` could not be sent. -/
  | notSent (what : String) (e : LineError)
  /-- The answer to the request `what` did not come. -/
  | lost (what : String) (e : LineError)
  | hungUp (what : String)
  /-- The broker has answered the request `what`, but not granted it. -/
  | refused (what : String) (status : Status) (error : Option String)
  | noGeometry
  | noTables
  | badTables (e : LayoutError)
  | notReceived (e : LineError)
  deriving DecidableEq, Repr

def ClientError.message : ClientError → String
  | .noSocket => "no socket path: pass --socket or set XDG_RUNTIME_DIR"
  | .unreachable path reason => s!"broker: connect {path}: {reason}"
  | .notGreeted e => s!"broker: send hello: {e.message}"
  | .rejected reason => "broker: handshake rejected: " ++ reason.getD ""
  | .noHandshake found => s!"broker: unexpected handshake response: {dump found}"
  | .notSent what e => s!"broker: send {what}: {e.message}"
  | .lost what e => s!"broker: {what}: {e.message}"
  | .hungUp what => s!"broker: {what}: broker closed connection"
  | .refused what status error =>
    let detail := (error.map fun e => s!" ({e})").getD ""
    s!"{what} failed: {dump status}{detail}"
  | .noGeometry => "broker: connect response missing geometry"
  | .noTables => "broker: response carries no tables"
  | .badTables e => s!"broker: bad tables blob: {e.message}"
  | .notReceived e => s!"broker: receive: {e.message}"

/-! ## The conversation -/

/-- A client's end of a connection. -/
structure Conversation where
  /-- What is still to arrive; after that the broker has hung up. -/
  incoming : List Incoming := []
  /-- How many messages the broker still reads. -/
  patience : Nat := 0
  /-- What has been sent, in order. -/
  sent : List Message := []
  nextId : UInt32 := 1
  /-- What has arrived unasked and is not taken yet. -/
  pushes : List Message := []
  deriving DecidableEq, Repr, Inhabited

namespace Conversation

/-- Sends a message, unless it is too large for a frame. It is lost on a broker that
does not read any more. -/
def send (c : Conversation) (m : Message) : Except LineError Unit × Conversation :=
  match Frame.ofMessage m, c.patience with
  | .error e, _ => (.error (.tooLarge e), c)
  | .ok _, 0 => (.error .brokenPipe, c)
  | .ok _, n + 1 => (.ok (), { c with patience := n, sent := c.sent ++ [m] })

/-- Takes what arrives next. -/
def next (c : Conversation) : Incoming × Conversation :=
  match c.incoming with
  | [] => (.ended, c)
  | x :: incoming => (x, { c with incoming })

/-- Says hello and waits for the answer. -/
def greet (c : Conversation) (role : Role) : Except ClientError Unit × Conversation :=
  match c.send (.hello 0 protocolVersion role) with
  | (.error e, c) => (.error (.notGreeted e), c)
  | (.ok _, c) =>
    match c.next with
    | (.message (.helloAck _ .ok _), c) => (.ok (), c)
    | (.message (.helloAck _ _ error), c) => (.error (.rejected error), c)
    | (found, c) => (.error (.noHandshake found), c)

/-- Waits for the response with an id among what arrives. Other responses are
stale and passed over; every other message is kept. The result is the response,
what is still to arrive, and what is kept. -/
def await (what : String) (id : UInt32) :
    List Incoming → List Message → Except ClientError Response × List Incoming × List Message
  | [], pushes => (.error (.hungUp what), [], pushes)
  | .ended :: rest, pushes => (.error (.hungUp what), rest, pushes)
  | .failed e :: rest, pushes => (.error (.lost what e), rest, pushes)
  | .message (.response r) :: rest, pushes =>
    -- an earlier request may have been given up before its answer came
    if r.id = id then (.ok r, rest, pushes) else await what id rest pushes
  | .message m :: rest, pushes => await what id rest (pushes ++ [m])

/-- A response that does not grant the request is an error. -/
def granted (what : String) (r : Response) : Except ClientError Response :=
  if r.status = .ok then .ok r else .error (.refused what r.status r.error)

/-- Sends a request with a new id and waits for its response. Ids are not used
again: after the last one the program ends. -/
def request (c : Conversation) (what : String) (message : UInt32 → Message) :
    Except Overflow (Except ClientError Response × Conversation) := do
  let id := c.nextId
  -- the counter moves on first, so also for a request that cannot be sent
  let nextId ← checkedNext id
  match { c with nextId }.send (message id) with
  | (.error e, c) => return (.error (.notSent what e), c)
  | (.ok _, c) =>
    let (response, incoming, pushes) := await what id c.incoming c.pushes
    return (response.bind (granted what), { c with incoming, pushes })

/-- Takes the next message that was not asked for, or nothing if the broker has
hung up. Those that have been kept come first. -/
def nextPush (c : Conversation) : Except ClientError (Option Message) × Conversation :=
  match c.pushes with
  | m :: pushes => (.ok (some m), { c with pushes })
  -- nothing is kept, so the next message counts as unasked whatever it is
  | [] =>
    match c.next with
    | (.message m, c) => (.ok (some m), c)
    | (.failed e, c) => (.error (.notReceived e), c)
    | (.ended, c) => (.ok none, c)

/-- Takes messages that were not asked for, up to `limit` in number, until there
are none, or an error. -/
def takePushes : (limit : Nat) → Conversation →
    List Message × Except ClientError Unit × Conversation
  | 0, c => ([], .ok (), c)
  | limit + 1, c =>
    match c.nextPush with
    | (.error e, c) => ([], .error e, c)
    | (.ok none, c) => ([], .ok (), c)
    | (.ok (some m), c) =>
      let (ms, r, c) := takePushes limit c
      (m :: ms, r, c)

/-- Takes every message that was not asked for, until the broker hangs up. -/
def allPushes (c : Conversation) : List Message × Except ClientError Unit × Conversation :=
  takePushes (c.pushes.length + c.incoming.length + 1) c

end Conversation

end InputBridge
