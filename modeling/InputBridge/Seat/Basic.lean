-- SUMMARY: The state of a seat, its requests for windows, and what is delivered.
import InputBridge.Server

/-!
# Seats

A seat is one connection to a display together with what the bridge keeps for it:
the registered windows, the keyboard layouts, and the state of pointer, cursor
and keyboard. Operations on a seat yield the changed seat, and what is to be
delivered to the desktops that share it.
-/

namespace InputBridge

/-- Something that a seat has for a desktop. Raw input names no window. -/
inductive Delivery where
  | input (window : Option Handle) (input : Input)
  | language (window : Handle) (hkl : UInt32)
  | locks (locks : Locks)
  deriving DecidableEq, Repr, Inhabited

/-- The keyboard of a seat. -/
structure KeyboardState where
  device : UInt8 := 0
  /-- The window manager holds the keyboard. -/
  grabbed : Bool := false
  /-- The window with the keyboard focus. -/
  focus : Option WindowId := none
  group : UInt32 := 0
  lockedModifiers : UInt32 := 0
  locks : Locks := {}
  /-- The layout of the last language change that was delivered. -/
  lastHkl : Option UInt32 := none
  deriving DecidableEq, Repr, Inhabited

structure Seat where
  display : String
  link : Link
  pointer : PointerDevice
  keyboard : KeyboardState := {}
  layouts : Layouts := {}
  windows : WindowTable := {}
  /-- The number of the last warp of the pointer. -/
  lastWarp : Option UInt64 := none
  /-- The barriers that confine the pointer, one for each edge. -/
  barriers : List UInt32 := []
  flushPending : Bool := false
  failed : Bool := false
  deriving Repr, Inhabited

namespace Seat

variable {σ : Type}

def isConfined (s : Seat) : Bool := !s.barriers.isEmpty

/-- Gives the seat up after an error of the transport. -/
def fail (s : Seat) : Seat := { s with failed := true }

/-- Sends what is queued, if anything is. A refused flush fails the seat. -/
def flushIfPending (S : DisplayServer σ) (s : Seat) : Talk σ Seat := do
  if !s.flushPending || s.failed then return s
  let s := { s with flushPending := false }
  match ← S.ask s.link .flush with
  | .ok _ => return s
  | .error _ => return s.fail

/-! ## Windows -/

/-- Registers a window and has its input reported. If the server refuses, the
window is not registered any more. -/
def startInput (S : DisplayServer σ) (s : Seat) (window : WindowId) (handle : Handle) :
    Talk σ (Except SeatError Unit × Seat) := do
  if s.failed then return (.error .failed, s)
  match s.windows.insert? window handle with
  | none => return (.error .tableFull, s)
  | some windows =>
    match ← S.ask s.link (.selectInput window true) with
    | .ok _ => return (.ok (), { s with windows, flushPending := true })
    -- also if the window was registered before under another handle
    | .error refusal =>
      return (.error (.refused refusal), { s with windows := (windows.remove window).2 })

/-- Forgets a window; the result is the handle it had. -/
def stopInput (S : DisplayServer σ) (s : Seat) (window : WindowId) :
    Talk σ (Option Handle × Seat) := do
  match s.windows.remove window with
  | (none, _) => return (none, s)
  | (some handle, windows) =>
    let s := { s with windows }
    -- a refusal to stop the input is passed over, and a failed seat does not ask
    let s ←
      if s.failed then pure s
      else do
        discard <| S.ask s.link (.selectInput window false)
        pure { s with flushPending := true }
    let s :=
      if s.keyboard.focus = some window then { s with keyboard.focus := none } else s
    return (some handle, s)

end Seat

end InputBridge
