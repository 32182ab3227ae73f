-- SUMMARY: What a client does from its hello to the end, and what it prints on the way.
import InputBridge.Client.Conversation
import InputBridge.Client.Report
import InputBridge.CommandLine
import InputBridge.Daemon.Socket

/-!
# Clients

A client says hello, attaches to a display, does what it is called for, and prints
what came of it. Listening goes on until the broker hangs up.
-/

namespace InputBridge

namespace Client

/-- The path at which a client finds the broker: the one given, or the default one. -/
def locate (f : Files) (given runtimeDirectory : Option String) : Except ClientError String := do
  match Daemon.socketPath? given runtimeDirectory with
  | none => throw .noSocket
  | some path =>
    (f.dial path).mapError fun e => .unreachable path e.message
    return path

/-- A client at work: the conversation, and the lines it has printed. -/
structure Session where
  conversation : Conversation
  printed : List String := []
  deriving DecidableEq, Repr, Inhabited

/-- What a client does until the first error, or until an overflow ends it. -/
abbrev Work := ExceptT ClientError (ExceptT Overflow (StateM Session))

/-! ## Steps -/

/-- Goes on with the conversation. -/
def converse {α : Type}
    (f : Conversation → Except Overflow (Except ClientError α × Conversation)) : Work α :=
  ExceptT.mk do
    let s ← getThe Session
    let (result, conversation) ← f s.conversation
    set { s with conversation }
    return result

def print (lines : List String) : Work Unit := modify fun s =>
  { s with printed := s.printed ++ lines }

def request (what : String) (message : UInt32 → Message) : Work Response :=
  converse (·.request what message)

/-- Attaches to a display. -/
def attach (display : String) : Work Report.Geometry := do
  let r ← request "connect" (.connect · display)
  match r.root, r.screenWidth, r.screenHeight with
  | some root, some width, some height => return { root, width, height }
  | _, _, _ => throw .noGeometry

def printTables (layout : UInt32) (r : Response) : Work Unit := do
  match r.tables with
  | none => throw .noTables
  | some image =>
    match KeyTables.ofImage image with
    | .error e => throw (.badTables e)
    | .ok t => print (Report.tables layout r image t)

/-! ## Listening -/

/-- Starts the input of windows. Their handles count up from `handle`. -/
def startInputs : (handle : Handle) → List WindowId → Work Unit
  | _, [] => return
  | handle, window :: windows => do
    discard <| request "start_input" (.startInput · window handle)
    startInputs (handle + 1) windows

/-- Prints what the broker sends until it hangs up. -/
def hear : Work Unit := ExceptT.mk do
  let s ← getThe Session
  let (ms, result, conversation) := s.conversation.allPushes
  set { s with conversation, printed := s.printed ++ ms.map Report.push }
  return result

/-- Stops the input of a window, if that can still be asked for. -/
def stopInput (window : WindowId) : Work Unit := do
  try discard <| request "stop_input" (.stopInput · window)
  catch _ : ClientError => return

/-! ## Actions -/

def roleOf : Action → Role
  | .listen _ => .desktop
  | _ => .client

/-- Does what the client is called for. -/
def act (display : String) (g : Report.Geometry) : Action → Work Unit
  | .info => print (Report.info display g)
  | .layouts => do
    let r ← request "list_layouts" .listLayouts
    print (Report.layouts (r.layouts.getD []))
  | .tables layout => do
    let r ← request "get_keyboard_tables" (.getTables · layout)
    printTables layout r
  | .clip rect => do
    discard <| request "clip_cursor" (.clipCursor · rect)
    print [Report.clip rect]
  | .warp x y => do
    discard <| request "set_cursor_pos" (.setCursorPos · x y)
    print [Report.warp x y]
  | .listen windows => do
    startInputs 1 windows
    hear
    windows.forM stopInput

/-- All that a client does over an open connection. -/
def run (display : String) (action : Action) : Work Unit := do
  converse fun c => return c.greet (roleOf action)
  let g ← attach display
  act display g action

end Client

end InputBridge
