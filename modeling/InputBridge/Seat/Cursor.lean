-- SUMMARY: Confining the pointer by barriers, and warping it.
import InputBridge.Seat.Basic

/-!
# The cursor of a seat

Confining the pointer to a rectangle by four barriers, and warping it.
-/

namespace InputBridge

/-- The sum of two 32-bit integers, or the nearest end of the range. -/
def addClamped (a b : Int32) : Int32 := clampInt32 (a.toInt + b.toInt)

/-- A rectangle of the virtual screen as one of the root window. -/
def Rect.toRoot (r screen : Rect) : Rect where
  left := addClamped r.left screen.left
  top := addClamped r.top screen.top
  right := addClamped r.right screen.left
  bottom := addClamped r.bottom screen.top

/-- A barrier along each edge. All of them let the pointer back inside. -/
def Rect.edges (r : Rect) : List Barrier := [
  ⟨r.left, r.top, r.left, r.bottom, .positiveX⟩,
  ⟨r.left, r.top, r.right, r.top, .positiveY⟩,
  ⟨r.right, r.top, r.right, r.bottom, .negativeX⟩,
  ⟨r.left, r.bottom, r.right, r.bottom, .negativeY⟩]

namespace Seat

variable {σ : Type}

/-- Deletes barriers. A refusal is passed over. -/
def deleteBarriers (S : DisplayServer σ) (link : Link) : List UInt32 → Talk σ Unit
  | [] => return
  | id :: ids => do
    discard <| S.ask link (.deleteBarrier id)
    deleteBarriers S link ids

/-- Creates barriers in order after those already `created`. If one is refused,
all that were created are deleted again. -/
def createBarriers (S : DisplayServer σ) (link : Link) (created : List UInt32) :
    List Barrier → Talk σ (Except Refusal (List UInt32))
  | [] => return .ok created
  | b :: bs => do
    match ← S.ask link (.createBarrier b) with
    | .ok id => createBarriers S link (created ++ [id]) bs
    | .error refusal =>
      deleteBarriers S link created
      return .error refusal

/-- Confines the pointer to a rectangle of the virtual screen, or to nothing. An
earlier confinement ends in either case. -/
def clip (S : DisplayServer σ) (s : Seat) (rect : Option Rect) (screen : Rect) :
    Talk σ (Except SeatError Unit × Seat) := do
  deleteBarriers S s.link s.barriers
  -- even if nothing is created, there may be something to delete
  let s := { s with barriers := [], flushPending := true }
  match rect with
  | none => return (.ok (), s)
  | some rect =>
    match ← createBarriers S s.link [] (rect.toRoot screen).edges with
    | .ok barriers => return (.ok (), { s with barriers })
    | .error refusal => return (.error (.refused refusal), s)

/-- Moves the pointer to a position of the virtual screen. -/
def warp (S : DisplayServer σ) (s : Seat) (x y : Int32) (screen : Rect) :
    Talk σ (Except SeatError Unit × Seat) := do
  match ← S.ask s.link (.warp (addClamped x screen.left) (addClamped y screen.top)) with
  | .ok seq => return (.ok (), { s with lastWarp := some seq, flushPending := true })
  | .error refusal => return (.error (.refused refusal), s)

end Seat

end InputBridge
