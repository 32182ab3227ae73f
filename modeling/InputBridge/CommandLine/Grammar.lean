-- SUMMARY: Commands as flags, options, positions and subcommands, and the reader for arguments.

/-!
# Command lines

Reading the arguments of a command: flags and options by name, the others by
position, and subcommands, which read what follows them. An argument counts only
when the next one is met or the command line ends, so of two faults it is often
the later one that is reported.
-/

namespace InputBridge

namespace CommandLine

/-! ## Faults -/

/-- Why a command line is not carried out. -/
inductive Fault where
  /-- The command line asks for help. -/
  | helpWanted
  /-- There is nothing on the command line. -/
  | nothingGiven
  | missingSubcommand
  | unknownSubcommand
  | unknownArgument
  | missingArgument
  /-- An option has no value, or none that it could have. -/
  | noValue
  /-- A flag has a value. -/
  | needlessValue
  | givenTwice
  | badValue (message : String)
  deriving DecidableEq, Repr

/-! ## Commands -/

/-- An argument with a value, and what its value does to what has been read. -/
structure Slot (α : Type) where
  name : String
  store : String → α → Except Fault α
  /-- Whether it may be given more than once. -/
  repeats : Bool := false

structure Command (α : Type) where
  flags : List (String × (α → α)) := []
  options : List (Slot α) := []
  /-- The arguments by position, all of which may have to be given. -/
  positionals : List (Slot α) := []
  allRequired : Bool := false
  /-- Whether arguments by position may begin with a hyphen. -/
  hyphens : Bool := false
  subcommands : List String := []

/-- The command that can be helped with, if there are others. -/
def helpWord : String := "help"

/-! ## Progress -/

/-- What has been read so far. -/
structure Progress (α : Type) where
  value : α
  /-- The flags and arguments that have been taken in. -/
  given : List String := []
  /-- The argument that is not taken in yet, with its value if it has one. -/
  pending : Option (Slot α × Option String) := none
  /-- The number of arguments by position. -/
  position : Nat := 0

namespace Progress

variable {α : Type}

/-- Takes in an argument with its value. -/
def take (p : Progress α) (slot : Slot α) (v : String) : Except Fault (Progress α) := do
  if p.given.contains slot.name && !slot.repeats then .error .givenTwice
  let value ← slot.store v p.value
  return { p with value, given := slot.name :: p.given }

/-- Takes in the argument that is pending. -/
def settle (p : Progress α) : Except Fault (Progress α) :=
  match p.pending with
  | none => .ok p
  | some (_, none) => .error .noValue
  | some (slot, some v) => { p with pending := none }.take slot v

/-- Takes in a flag. -/
def raise (p : Progress α) (name : String) (set : α → α) : Except Fault (Progress α) :=
  if p.given.contains name then .error .givenTwice
  else .ok { p with value := set p.value, given := name :: p.given }

end Progress

/-! ## Reading -/

/-- What an argument looks like. -/
inductive Shape where
  /-- `--` alone: only arguments by position follow. -/
  | divider
  /-- `--name` or `--name=value`. -/
  | long (name : String) (value : Option String)
  /-- A hyphen and letters. -/
  | short (letters : List Char)
  | word
  deriving DecidableEq, Repr

def Shape.of (arg : String) : Shape :=
  match arg.toList with
  | ['-', '-'] => .divider
  | '-' :: '-' :: rest =>
    let name := rest.takeWhile (· != '=')
    match rest.dropWhile (· != '=') with
    | [] => .long (String.ofList name) none
    | _ :: value => .long (String.ofList name) (some (String.ofList value))
  | '-' :: c :: rest => .short (c :: rest)
  | _ => .word

namespace Command

variable {α : Type}

/-- What is wrong with an argument that has no place. -/
def strayFault (c : Command α) (afterDivider : Bool) (arg : String) : Fault :=
  if c.subcommands.isEmpty || (afterDivider && c.subcommands.contains arg) then .unknownArgument
  else .unknownSubcommand

/-- Takes an argument by its position. -/
def place (c : Command α) (p : Progress α) (afterDivider : Bool) (arg : String) :
    Except Fault (Progress α) :=
  match c.positionals[p.position]? with
  | none => .error (c.strayFault afterDivider arg)
  | some slot =>
    -- the argument before this one is taken in only now, and so are its faults
    p.settle.map fun p => { p with pending := some (slot, some arg), position := p.position + 1 }

/-- Whether the next argument by position may begin with a hyphen. -/
def takesHyphen (c : Command α) (p : Progress α) : Bool :=
  c.hyphens && p.position < c.positionals.length

/-- Takes an argument that names a flag or an option. -/
def name (c : Command α) (p : Progress α) (arg name : String) (value : Option String) :
    Except Fault (Progress α) :=
  match c.options.find? (·.name == name) with
  | some slot =>
    match value with
    | some v => p.settle.bind (·.take slot v)
    | none => p.settle.map fun p => { p with pending := some (slot, none) }
  | none =>
    match (c.flags.find? (·.1 == name)).map (·.2), name == helpWord, value with
    | none, false, _ => if c.takesHyphen p then c.place p false arg else .error .unknownArgument
    | _, _, some _ => .error .needlessValue
    | some set, _, none => p.settle.bind (·.raise name set)
    | none, true, none => p.settle.bind fun _ => .error .helpWanted

/-- Takes an argument of a hyphen and letters. The only letter is that for help. -/
def letters (c : Command α) (p : Progress α) (arg : String) (letters : List Char) :
    Except Fault (Progress α) :=
  if c.takesHyphen p && letters.any (· != 'h') then c.place p false arg
  else if letters.head? = some 'h' then p.settle.bind fun _ => .error .helpWanted
  else .error .unknownArgument

/-- Takes a word: the value of a pending option, or an argument by position. -/
def word (c : Command α) (p : Progress α) (arg : String) : Except Fault (Progress α) :=
  match p.pending with
  | some (slot, none) => .ok { p with pending := some (slot, some arg) }
  | _ => c.place p false arg

/-- Whether an option waits for its value. -/
def awaits (p : Progress α) : Bool :=
  match p.pending with
  | some (_, none) => true
  | _ => false

/-- Reads arguments up to a subcommand, which is told with what follows it. -/
def scan (c : Command α) : (afterDivider : Bool) → List String → Progress α →
    Except Fault (Progress α × Option (String × List String))
  | _, [], p => .ok (p, none)
  | true, arg :: args, p => do c.scan true args (← c.place p true arg)
  | false, arg :: args, p =>
    -- the value of an option may have the name of a subcommand
    if !awaits p && c.subcommands.contains arg then .ok (p, some (arg, args))
    else match Shape.of arg with
      | .divider => c.scan true args p
      | .long name value => do c.scan false args (← c.name p arg name value)
      | .short letters => do c.scan false args (← c.letters p arg letters)
      | .word => do c.scan false args (← c.word p arg)

/-- Reads a command line onto `start`. `sub` reads what follows a subcommand; its
faults come before those of an argument that is still pending. `present` says
whether something was given in another way. -/
def read {β : Type} (c : Command α) (start : α) (present : Bool)
    (sub : String → List String → Except Fault β) (args : List String) :
    Except Fault (α × Option β) := do
  let (p, rest) ← c.scan false args { value := start }
  let result ← match rest with
    | none => pure none
    | some (name, args) => some <$> sub name args
  let p ← p.settle
  if result.isNone && !c.subcommands.isEmpty then
    .error (if p.given.isEmpty && !present then .nothingGiven else .missingSubcommand)
  else if c.allRequired && p.position < c.positionals.length then .error .missingArgument
  else return (p.value, result)

/-- Reads the command line of a command without subcommands. -/
def readAll (c : Command α) (start : α) (args : List String) : Except Fault α :=
  (·.1) <$> c.read start false (fun _ _ => .error Fault.unknownSubcommand (α := Unit)) args

end Command

end CommandLine

end InputBridge
