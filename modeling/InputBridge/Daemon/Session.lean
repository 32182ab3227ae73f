-- SUMMARY: The daemon's side of one client: its phases, and what it reads and writes in them.
import InputBridge.Wire.Frame

/-!
# Sessions

A session is the daemon's side of a client. It begins with a hello and ends when
the client hangs up, breaks the rules or is rejected. In between it hands one
request at a time to the broker and writes the answer, and it writes what the
broker has for the client unasked while no request is with the broker.
-/

namespace InputBridge

namespace Daemon

/-- What a session does next. -/
inductive Phase where
  /-- It waits for the hello. -/
  | greeting
  /-- The hello is with the broker. -/
  | greeted
  /-- It waits for a request, or for something to write. -/
  | ready
  /-- A request is with the broker. -/
  | waiting
  | ended
  deriving DecidableEq, Repr, Inhabited

structure Session where
  phase : Phase := .greeting
  /-- The bytes that have arrived. -/
  reader : Frame.Reader := {}
  /-- The client does not send any more. -/
  hungUp : Bool := false
  /-- The client does not read any more. -/
  gone : Bool := false
  /-- The broker's answer to the request that is with it. -/
  answer : Option Message := none
  /-- What the broker has for the client unasked, in order. -/
  pushes : List Message := []
  /-- What has been written to the client, in order. -/
  written : List Message := []
  deriving DecidableEq, Repr, Inhabited

namespace Session

def finish (s : Session) : Session := { s with phase := .ended }

/-- Whether the session awaits the client's next frame. -/
def isReading (s : Session) : Bool := s.phase == .greeting || s.phase == .ready

/-- Whether something is with the broker. -/
def isAsking (s : Session) : Bool := s.phase == .greeted || s.phase == .waiting

/-! ## Writing -/

/-- Writes a message and goes on in another phase. A client that is gone, or a
message that fits no frame, ends the session. -/
def write (s : Session) (m : Message) (phase : Phase) : Session :=
  if s.gone || !(Frame.ofMessage m matches .ok _) then s.finish
  else { s with phase, written := s.written ++ [m] }

/-- The phase that follows the answer to the hello. -/
def afterHello : Message → Phase
  | .helloAck _ .error _ => .ended
  | _ => .ready

/-- Writes the answer that the broker has given. -/
def writeAnswer (s : Session) : Session :=
  match s.answer with
  | none => s
  | some m =>
    match s.phase with
    | .greeted => { s with answer := none }.write m (afterHello m)
    | .waiting => { s with answer := none }.write m .ready
    | _ => s

/-- Writes the next message that the broker has unasked. -/
def writePush (s : Session) : Session :=
  match s.phase, s.pushes with
  | .ready, m :: pushes => { s with pushes }.write m .ready
  | _, _ => s

/-! ## Reading -/

/-- Takes a frame's payload. The second result is what is handed to the broker. -/
def take (s : Session) (payload : List UInt8) : Session × Option Message :=
  match s.phase, Payload.decode payload with
  | .greeting, .message m@(.hello ..) => ({ s with phase := .greeted }, some m)
  | .ready, .message m => ({ s with phase := .waiting }, some m)
  | .ready, .unknown e => (s.write (.response (.failure e.id "unknown_type")) .ready, none)
  -- anything else breaks the rules
  | _, _ => (s.finish, none)

/-- Takes the client's next frame, if there is one, or sees that it has hung up. -/
def read (s : Session) : Session × Option Message :=
  if !s.isReading then (s, none)
  else
    match s.reader.next with
    | (.error _, reader) => ({ s with reader }.finish, none)
    | (.ok (some payload), reader) => { s with reader }.take payload
    | (.ok none, reader) =>
      if s.hungUp then ({ s with reader }.finish, none) else ({ s with reader }, none)

end Session

end Daemon

end InputBridge
