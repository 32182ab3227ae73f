-- SUMMARY: Requests to a display server with the types of their answers, and computations that talk to one.
import InputBridge.Keyboard.Layout
import InputBridge.Overflow
import InputBridge.Pointer
import InputBridge.Text.Quoted
import InputBridge.WindowTable

/-!
# Display servers

What the bridge asks of a display server, as data: each request has a type of
answers, and any request may be refused. A server is a state with a way to answer;
nothing is assumed of it, so whatever is shown of the bridge holds for every
pattern of answers and refusals.
-/

namespace InputBridge

/-! ## Errors -/

/-- Why a display server did not grant a request. -/
inductive Refusal where
  | extension (name reason : String)
  | request (reason : String)
  | keymap (reason : String)
  deriving DecidableEq, Repr

def Refusal.message : Refusal → String
  | .extension name reason => s!"{name} unavailable: {reason}"
  | .request reason => s!"X11 request failed: {reason}"
  | .keymap reason => s!"keymap unavailable: {reason}"

/-- Why an operation on a display connection failed. -/
inductive SeatError where
  | cannotOpen (display reason : String)
  | refused (refusal : Refusal)
  | layout (error : LayoutError)
  | tableFull
  | failed
  deriving DecidableEq, Repr

/-- What is said when the window table is full. -/
def WindowTable.fullMessage : String :=
  s!"window registry is full ({maxCapacity} entries)"

def SeatError.message : SeatError → String
  | .cannotOpen display reason => s!"cannot open display {Text.quoted display}: {reason}"
  | .refused refusal => refusal.message
  | .layout error => error.message
  | .tableFull => WindowTable.fullMessage
  | .failed => "host connection has failed"

/-! ## Requests and answers -/

/-- The direction in which the pointer may cross a barrier. -/
inductive Direction where
  | positiveX
  | positiveY
  | negativeX
  | negativeY
  deriving DecidableEq, Repr, Inhabited

/-- A line that the pointer crosses in one direction only. -/
structure Barrier where
  x1 : Int32
  y1 : Int32
  x2 : Int32
  y2 : Int32
  allow : Direction
  deriving DecidableEq, Repr, Inhabited

/-- Group and locked modifiers of the keyboard. -/
structure KeyboardReport where
  group : UInt32
  lockedModifiers : UInt32
  deriving DecidableEq, Repr, Inhabited

inductive Request where
  /-- Make sure that there are pointer barriers. -/
  | barrierSupport
  /-- Name the pointer and report its raw motion. -/
  | pointer
  /-- Name the core keyboard and report its changes. -/
  | keyboard
  | keyboardReport (device : UInt8)
  | rules
  | keymap (device : UInt8)
  /-- Begin to deliver events. -/
  | startEvents
  /-- Send what is queued. -/
  | flush
  /-- Report the input of a window, or stop to. -/
  | selectInput (window : WindowId) (enable : Bool)
  /-- Move the pointer; the answer is the number by which its motion is known. -/
  | warp (x y : Int32)
  | createBarrier (barrier : Barrier)
  | deleteBarrier (id : UInt32)
  deriving DecidableEq, Repr

/-- What a granted request is answered with. -/
abbrev Request.Answer : Request → Type
  | .pointer => PointerDevice
  | .keyboard => UInt8
  | .keyboardReport _ => KeyboardReport
  | .rules => Rules
  | .keymap _ => Keymap
  | .warp _ _ => UInt64
  | .createBarrier _ => UInt32
  | _ => Unit

/-! ## Servers -/

/-- An open link to a display: its number, the root window and its size. -/
structure Link where
  id : Nat
  root : UInt32
  width : UInt16
  height : UInt16
  deriving DecidableEq, Repr, Inhabited

structure DisplayServer (σ : Type) where
  /-- Opens a link to a display, or says why not. -/
  openLink : (display : String) → σ → Except String Link × σ
  /-- Answers a request on a link. -/
  answer : (link : Nat) → (r : Request) → σ → Except Refusal r.Answer × σ
  /-- Closes a link for good. -/
  closeLink : (link : Nat) → σ → σ

/-- What the bridge works in: the server's state and the layout id to be given out
next. -/
structure World (σ : Type) where
  server : σ
  nextLayoutId : UInt16 := 1

/-- A computation that may talk to the display server. -/
abbrev Talk (σ : Type) := StateM (World σ)

/-- A computation that may talk to the display server, and that an overflow ends. -/
abbrev Checked (σ : Type) := ExceptT Overflow (Talk σ)

namespace DisplayServer

variable {σ : Type}

def connect (S : DisplayServer σ) (display : String) : Talk σ (Except String Link) :=
  fun w =>
    let (result, server) := S.openLink display w.server
    (result, { w with server })

def ask (S : DisplayServer σ) (link : Link) (r : Request) : Talk σ (Except Refusal r.Answer) :=
  fun w =>
    let (result, server) := S.answer link.id r w.server
    (result, { w with server })

def disconnect (S : DisplayServer σ) (link : Link) : Talk σ Unit :=
  fun w => ((), { w with server := S.closeLink link.id w.server })

/-- Asks, and gives up on a refusal. -/
def demand (S : DisplayServer σ) (link : Link) (r : Request) :
    ExceptT SeatError (Talk σ) r.Answer :=
  ExceptT.mk do return (← S.ask link r).mapError .refused

/-- A server none of whose displays can be opened. -/
def unreachable (reason : String) : DisplayServer Unit where
  openLink _ s := (.error reason, s)
  answer _ _ s := (.error (.request reason), s)
  closeLink _ s := s

end DisplayServer

end InputBridge
