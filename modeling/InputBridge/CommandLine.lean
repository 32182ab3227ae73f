-- SUMMARY: The commands of the program with their arguments, read into what is to be run.
import InputBridge.CommandLine.Grammar
import InputBridge.CommandLine.Values

/-!
# The program's command line

The program runs the broker, or a client of a running broker that does one thing.
-/

namespace InputBridge

/-- What a client does. -/
inductive Action where
  /-- Print the root window and the size of the screen. -/
  | info
  | layouts
  /-- Summarize the keyboard tables of a layout. -/
  | tables (layout : UInt32)
  /-- Confine the cursor, or set it free. -/
  | clip (rect : Option Rect)
  | warp (x y : Int32)
  /-- Print what the broker sends, with the input of windows. -/
  | listen (windows : List WindowId)
  deriving DecidableEq, Repr

/-- What the program is called for. -/
inductive Invocation where
  | broker (socket : Option String) (virtualScreen : Option Rect) (displaysDisabled : Bool)
  | client (socket : Option String) (display : String) (action : Action)
  deriving DecidableEq, Repr

namespace CommandLine

/-! ## The broker -/

structure BrokerArguments where
  socket : Option String := none
  virtualScreen : Option Rect := none
  displaysDisabled : Bool := false
  deriving DecidableEq, Repr

/-- A path may not be empty. -/
def checkPath (path : String) : Except Fault String :=
  if path.isEmpty then .error .noValue else .ok path

def checkScreen (s : String) : Except Fault Rect :=
  (parseScreen s).mapError fun e => .badValue (e.message s)

def brokerCommand : Command BrokerArguments where
  flags := [("disable-x11", fun a => { a with displaysDisabled := true })]
  options := [
    { name := "socket", store := fun v a => do return { a with socket := some (← checkPath v) } },
    { name := "virtual-screen"
      store := fun v a => do return { a with virtualScreen := some (← checkScreen v) } }]

/-! ## Actions -/

def tablesCommand : Command UInt32 where
  positionals := [{ name := "layout", store := fun v _ => (parseLayout v).mapError .badValue }]
  allRequired := true

def clipCommand : Command (Option Rect) where
  positionals := [{ name := "rect", store := fun v _ => some <$> checkScreen v }]

def warpCommand : Command (Int32 × Int32) where
  positionals := [
    { name := "x", store := fun v p => do return (← (parseCoordinate v).mapError .badValue, p.2) },
    { name := "y", store := fun v p => do return (p.1, ← (parseCoordinate v).mapError .badValue) }]
  allRequired := true
  hyphens := true

def listenCommand : Command (List WindowId) where
  options := [{
    name := "window"
    store := fun v ws => do return ws ++ [← (parseWindow v).mapError .badValue]
    repeats := true }]

/-- A command without arguments. -/
def bareCommand : Command Unit := {}

/-! ## The client -/

structure ClientArguments where
  socket : Option String := none
  display : Option String := none
  deriving DecidableEq, Repr

def actionWords : List String := ["info", "layouts", "tables", "clip", "warp", "listen", helpWord]

def clientCommand : Command ClientArguments where
  options := [
    { name := "socket", store := fun v a => do return { a with socket := some (← checkPath v) } },
    { name := "display", store := fun v a => .ok { a with display := some v } }]
  subcommands := actionWords

/-- Asking for help about commands, each of which is one of those before it. -/
def helpFault : (known : List (List String)) → List String → Fault
  | _, [] => .helpWanted
  | [], _ :: _ => .unknownSubcommand
  | words :: known, arg :: args =>
    if !words.contains arg then .unknownSubcommand
    else if arg == "client" then helpFault known args
    else helpFault [] args

def readAction (word : String) (args : List String) : Except Fault Action :=
  match word with
  | "info" => (bareCommand.readAll () args).map fun _ => .info
  | "layouts" => (bareCommand.readAll () args).map fun _ => .layouts
  | "tables" => (tablesCommand.readAll 0 args).map .tables
  | "clip" => (clipCommand.readAll none args).map .clip
  | "warp" => (warpCommand.readAll (0, 0) args).map fun (x, y) => .warp x y
  | "listen" => (listenCommand.readAll [] args).map .listen
  | _ => .error (helpFault [actionWords] args)

/-- Reads the arguments of a client. The display is the one named, or that of the
environment, or else the empty one. -/
def readClient (envDisplay : Option String) (args : List String) : Except Fault Invocation := do
  let (a, action) ← clientCommand.read {} envDisplay.isSome readAction args
  match action with
  | some action => return .client a.socket ((a.display <|> envDisplay).getD "") action
  | none => .error .missingSubcommand

/-! ## The program -/

def programWords : List String := ["broker", "client", helpWord]

def programCommand : Command Unit where
  subcommands := programWords

def readProgram (envDisplay : Option String) (word : String) (args : List String) :
    Except Fault Invocation :=
  match word with
  | "broker" =>
    (brokerCommand.readAll {} args).map fun a => .broker a.socket a.virtualScreen a.displaysDisabled
  | "client" => readClient envDisplay args
  | _ => .error (helpFault [programWords, actionWords] args)

/-- Reads the arguments that follow the program's name. -/
def parse (envDisplay : Option String) (args : List String) : Except Fault Invocation := do
  match (← programCommand.read () false (readProgram envDisplay) args).2 with
  | some invocation => return invocation
  | none => .error .missingSubcommand

end CommandLine

end InputBridge
