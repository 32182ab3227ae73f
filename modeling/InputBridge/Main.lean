-- SUMMARY: The program's entry point over standard input and output.
import InputBridge.Daemon
import InputBridge.Program

/-!
# The command

The program at the command line. Broker and client talk over standard input and
standard output, as they do when a listener starts a program for a connection; what
a client prints, and what goes wrong, is written to standard error. No display is in
reach of a broker that is started in this way.
-/

namespace InputBridge

namespace Program

/-! ## The connection -/

/-- Reads as much as the next frame has, or nothing at the end. A length that is too
large stands alone. -/
def readChunk : IO (Option (List UInt8)) := do
  let input ← IO.getStdin
  let head := (← input.read 4).toList
  let size := Wire.ofBigEndian head
  if head.isEmpty then return none
  else if head.length < 4 || size = 0 || Frame.maxPayload < size then return some head
  else return some (head ++ (← input.read (USize.ofNat size)).toList)

/-- Writes messages. Nobody may be there to read them. -/
def writeMessages (messages : List Message) : IO Unit := do
  let out ← IO.getStdout
  try
    for m in messages do
      if let .ok frame := Frame.ofMessage m then out.write ⟨frame.toArray⟩
    out.flush
  catch _ => return

/-! ## The broker -/

def noDisplays : DisplayServer Unit := .unreachable "no display is in reach"

/-- Serves the first client of a daemon until its session has ended. The client has
been written `count` messages before. -/
partial def serve (d : Daemon) (count : Nat) (world : World Unit) :
    IO (Except Overflow Unit) := do
  let action : Daemon.Action := match ← readChunk with
    | some bytes => .arrive 0 bytes
    | none => .hangUp 0
  let (settled, world) := (do (← d.step noDisplays action).settle noDisplays).run.run world
  match settled with
  | .error e => return .error e
  | .ok d =>
    match d.sessions.get? 0 with
    | none => return .ok ()
    | some session =>
      writeMessages (session.written.drop count)
      if session.phase = .ended then return .ok ()
      serve d session.written.length world

/-- A daemon with a client that has just come. -/
def welcome (screen : Option Rect) (displaysDisabled : Bool) : Daemon where
  broker := { config := { virtualScreen := screen, displaysEnabled := !displaysDisabled } }
  sessions := [(0, {})]
  nextClient := 1

/-! ## The client -/

/-- Stands for what has not come yet. -/
def notYet : LineError := .leftover

/-- Whether a client has stopped at what has not come yet. -/
def isWaiting : Except Overflow (Except ClientError Unit) → Bool
  | .ok (.error (.noHandshake (.failed e))) | .ok (.error (.lost _ e))
  | .ok (.error (.notReceived e)) => e = notYet
  | _ => false

/-- What a client does with all that has come, from the beginning. -/
def play (display : String) (action : Action) (received : List UInt8) (isOpen : Bool) :
    Except Overflow (Except ClientError Unit) × Client.Session :=
  let incoming := Incoming.ofBytes received ++ if isOpen then [.failed notYet] else []
  (Client.run display action).run.run.run { conversation := { incoming, patience := 0x100000000 } }

/-- Runs a client. It begins afresh whenever more has come, and does again what it
did before; `before` is how far it got. -/
partial def follow (display : String) (action : Action) (received : List UInt8) (isOpen : Bool)
    (before : Client.Session) : IO (Except Overflow (Except ClientError Unit)) := do
  let (result, session) := play display action received isOpen
  writeMessages (session.conversation.sent.drop before.conversation.sent.length)
  for line in session.printed.drop before.printed.length do
    IO.eprintln line
  if isOpen && isWaiting result then
    match ← readChunk with
    | some bytes => follow display action (received ++ bytes) true session
    | none => follow display action received false session
  else return result

/-! ## The end -/

def usage : List String := [
  "Usage: x11hostd broker [--socket PATH] [--virtual-screen X,Y,WxH] [--disable-x11]",
  "       x11hostd client [--socket PATH] [--display DISPLAY] ACTION"]

/-- Says how the program ends. -/
def finish (ending : Ending) : IO UInt32 := do
  for line in (ending.complaint?.map ([·])).getD usage do
    IO.eprintln line
  return UInt32.ofNat ending.code

/-- Does what the command line says. -/
def perform (env : Environment) (args : List String) : IO UInt32 := do
  match CommandLine.parse env.display args with
  | .error fault => finish (.ofFault fault)
  | .ok (.broker _ screen displaysDisabled) =>
    match ← serve (welcome screen displaysDisabled) 0 { server := () } with
    | .ok _ => return 0
    | .error e => finish (.overflowed e)
  | .ok (.client _ display action) =>
    match ← follow display action [] true { conversation := {} } with
    | .ok (.ok _) => return 0
    | .ok (.error e) => finish (.clientFailed e)
    | .error e => finish (.overflowed e)

end Program

end InputBridge

def main (args : List String) : IO UInt32 := do
  InputBridge.Program.perform
    { display := ← IO.getEnv "DISPLAY", runtimeDirectory := ← IO.getEnv "XDG_RUNTIME_DIR" } args
