-- SUMMARY: What the program is called with, what it sets out to do, and how it ends.
import InputBridge.Client

/-!
# The program

How the program begins, and how it ends if it does not get through with its work:
with the help that was asked for, with a wrong command line, with an error, or by an
overflow.
-/

namespace InputBridge

namespace Program

/-- The variables of the environment that matter. -/
structure Environment where
  display : Option String := none
  runtimeDirectory : Option String := none
  deriving DecidableEq, Repr, Inhabited

/-- How the program ends. -/
inductive Ending where
  | help
  | misuse (fault : CommandLine.Fault)
  | brokerFailed (e : Daemon.StartError)
  | clientFailed (e : ClientError)
  | overflowed (e : Overflow)
  deriving DecidableEq, Repr

def Ending.ofFault : CommandLine.Fault → Ending
  | .helpWanted => .help
  | fault => .misuse fault

/-- The exit code. -/
def Ending.code : Ending → Nat
  | .help => 0
  | .misuse _ => 2
  | .brokerFailed _ | .clientFailed _ => 1
  | .overflowed _ => 101

/-- The line that tells an error, apart from those of the command line. -/
def Ending.complaint? : Ending → Option String
  | .help | .misuse _ => none
  | .brokerFailed e => some s!"x11hostd broker: {e.message}"
  | .clientFailed e => some s!"x11hostd client: {e.message}"
  | .overflowed e => some e.message

/-- Reads the command line, and begins to listen or finds the broker. The result
is what the program is called for and the path of the socket. -/
def start (f : Files) (env : Environment) (args : List String) :
    Except Ending (Invocation × String) × Files :=
  match CommandLine.parse env.display args with
  | .error fault => (.error (.ofFault fault), f)
  | .ok invocation@(.broker socket ..) =>
    let (result, f) := Daemon.start f socket env.runtimeDirectory
    ((result.mapError .brokerFailed).map fun path => (invocation, path), f)
  | .ok invocation@(.client socket ..) =>
    let result := Client.locate f socket env.runtimeDirectory
    ((result.mapError .clientFailed).map fun path => (invocation, path), f)

end Program

end InputBridge
