-- SUMMARY: Paths, and the outcomes of the file operations that a socket and its directory need.
import InputBridge.Assoc
import InputBridge.Text.Utf8

/-!
# Files

Paths and what stands at them, as far as a socket and its directory need it.
-/

namespace InputBridge

/-! ## Paths -/

namespace Path

/-- The names along a path; the first is a slash if the path begins at the root. -/
def names (path : String) : List String :=
  let inner := (path.splitOn "/").filter fun name => name != "" && name != "."
  if path.startsWith "/" then "/" :: inner else inner

/-- A path backwards, without what follows its last name. The root stays. -/
def trimEnd : List Char → List Char
  | ['/'] => ['/']
  | '/' :: rest => trimEnd rest
  | '.' :: '/' :: rest => trimEnd ('/' :: rest)
  | cs => cs

/-- The path without its last name, if it has a name. -/
def parent? (path : String) : Option String :=
  match trimEnd path.toList.reverse with
  | [] | ['/'] => none
  | cs => some (String.ofList (trimEnd (cs.dropWhile (· ≠ '/'))).reverse)

/-- The path of a name in a directory. -/
def join (directory name : String) : String :=
  if directory.isEmpty || directory.endsWith "/" then directory ++ name
  else s!"{directory}/{name}"

end Path

/-! ## Errors -/

inductive FileError where
  | notFound
  | exists
  | notDirectory
  | isDirectory
  | inUse
  | refused
  /-- The path does not fit the address of a socket. -/
  | tooLong
  deriving DecidableEq, Repr

def FileError.message : FileError → String
  | .notFound => "No such file or directory (os error 2)"
  | .exists => "File exists (os error 17)"
  | .notDirectory => "Not a directory (os error 20)"
  | .isDirectory => "Is a directory (os error 21)"
  | .inUse => "Address already in use (os error 98)"
  | .refused => "Connection refused (os error 111)"
  | .tooLong => "path must be shorter than SUN_LEN"

/-! ## What stands at paths -/

inductive Node where
  | file
  | directory (mode : Nat)
  /-- A socket, and whether someone listens on it. -/
  | socket (listening : Bool)
  deriving DecidableEq, Repr, Inhabited

/-- What stands at the names along a path. The directory that one is in is always
there. -/
abbrev Files := Assoc (List String) Node

namespace Files

def at? (f : Files) (names : List String) : Option Node :=
  if names.isEmpty then some (.directory 0o755) else f.get? names

/-- Goes on along names from a place that is reached. -/
def walk (f : Files) : (reached : List String) → List String → Except FileError (Option Node)
  | reached, [] => .ok (f.at? reached)
  | reached, name :: rest =>
    match f.at? reached with
    | none => .error .notFound
    | some (.directory _) => walk f (reached ++ [name]) rest
    | some _ => .error .notDirectory

/-- What stands at a path, if every name before its last one is a directory. -/
def find (f : Files) (path : String) : Except FileError (Option Node) := f.walk [] (Path.names path)

def contains (f : Files) (path : String) : Bool := f.find path matches .ok (some _)

/-- Makes a directory with those before it that are missing. They are for their
owner only. -/
def makeDirectories (f : Files) (path : String) : Except FileError Files :=
  match f.find path with
  | .ok (some (.directory _)) => .ok f
  | .ok (some _) => .error .exists
  | .error .notDirectory => .error .notDirectory
  | _ =>
    let names := Path.names path
    .ok ((List.range names.length).foldl (fun f n =>
      let names := names.take (n + 1)
      if (f.at? names).isSome then f else f.insert names (.directory 0o700)) f)

/-- Changes the mode of a directory. -/
def setMode (f : Files) (path : String) (mode : Nat) : Files :=
  f.insert (Path.names path) (.directory mode)

/-- The mode of a directory. -/
def modeOf? (f : Files) (path : String) : Option Nat :=
  match f.find path with
  | .ok (some (.directory mode)) => some mode
  | _ => none

def remove (f : Files) (path : String) : Except FileError Files := do
  match ← f.find path with
  | none => throw .notFound
  | some (.directory _) => throw .isDirectory
  | some _ => return f.erase (Path.names path)

/-! ## Sockets -/

/-- The path of a socket is shorter than this. -/
def maxSocketPath : Nat := 108

def checkSocketPath (path : String) : Except FileError Unit :=
  if (Text.Utf8.encode path).length < maxSocketPath then .ok () else .error .tooLong

/-- Makes a socket at a path and listens on it. -/
def bind (f : Files) (path : String) : Except FileError Files := do
  checkSocketPath path
  match ← f.find path with
  | some _ => throw .inUse
  | none => return f.insert (Path.names path) (.socket true)

/-- Whether someone can be talked to at a path. -/
def dial (f : Files) (path : String) : Except FileError Unit := do
  checkSocketPath path
  match ← f.find path with
  | none => throw .notFound
  | some (.socket true) => return
  | some _ => throw .refused

end Files

end InputBridge
