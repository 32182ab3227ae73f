-- SUMMARY: Taking the broker's socket: its directory, and sockets that are left over.
import InputBridge.Files

/-!
# The broker's socket

Where the broker listens, and what it takes to begin. The directory of the socket
is for its owner only, and a socket that nobody listens on any more is replaced.
-/

namespace InputBridge

namespace Daemon

/-! ## The path -/

/-- The socket's path if none is given, in the directory for runtime files. -/
def defaultSocket (runtimeDirectory : String) : String :=
  Path.join (Path.join runtimeDirectory "x11hostd") "broker.sock"

/-- The socket's path: the one given, or the default one. -/
def socketPath? (given runtimeDirectory : Option String) : Option String :=
  given <|> runtimeDirectory.map defaultSocket

/-! ## Listening -/

/-- Why the broker does not begin. -/
inductive StartError where
  | noRuntimeDirectory
  | alreadyRunning (path : String)
  | noParent (path : String)
  | directoryFailed (path : String) (e : FileError)
  | bindFailed (path : String) (e : FileError)
  deriving DecidableEq, Repr

def StartError.message : StartError → String
  | .noRuntimeDirectory => "$XDG_RUNTIME_DIR is not set"
  | .alreadyRunning path => s!"broker already running at {path}"
  | .noParent path => s!"socket path {path} has no parent directory"
  | .directoryFailed path e => s!"failed to create directory {path}: {e.message}"
  | .bindFailed path e => s!"failed to bind socket {path}: {e.message}"

/-- Makes the directory of a path, and keeps it for its owner. -/
def privateDirectory (f : Files) (path : String) : Except StartError Files :=
  match (Path.parent? path).filter (!·.isEmpty) with
  | none => .error (.noParent path)
  | some directory =>
    match f.makeDirectories directory with
    | .error e => .error (.directoryFailed directory e)
    | .ok f => .ok (f.setMode directory 0o700)

/-- Takes the place of a socket that nobody listens on. -/
def replaceSocket (f : Files) (path : String) : Except StartError Files :=
  match f.dial path with
  | .ok _ => .error (.alreadyRunning path)
  | .error _ => (f.remove path >>= (·.bind path)).mapError (.bindFailed path)

/-- Listens on a path. The files are as they are left, also after an error. -/
def listen (f : Files) (path : String) : Except StartError Unit × Files :=
  match privateDirectory f path with
  | .error e => (.error e, f)
  | .ok f =>
    let result :=
      match f.bind path with
      | .error .inUse => replaceSocket f path
      | result => result.mapError (.bindFailed path)
    match result with
    | .ok f => (.ok (), f)
    | .error e => (.error e, f)

/-- Begins at the given socket or the default one. The result is the path. -/
def start (f : Files) (given runtimeDirectory : Option String) : Except StartError String × Files :=
  match socketPath? given runtimeDirectory with
  | none => (.error .noRuntimeDirectory, f)
  | some path =>
    let (result, f) := listen f path
    (result.map fun _ => path, f)

end Daemon

end InputBridge
