-- SUMMARY: Steps and runs of a seat, and playing operations.
import InputBridge.Proofs.Keyboard.LayoutIds
import InputBridge.Proofs.Seat.Requests

/-!
# Runs of a seat

Once a seat is set up it does one thing after the other: it handles an event, carries out
a request, sends what is queued, or fails. Between two steps its display server may go on
by itself, so each step begins in any state of the server. An event at a position that does
not fit is no step: it ends the program, and the run with it.
-/

namespace InputBridge

namespace Seat

open Checked (Yields)

variable {σ : Type}

/-- What a seat is given to do. -/
inductive Operation where
  | event (screen : Rect) (e : Event)
  | startInput (window : WindowId) (handle : Handle)
  | stopInput (window : WindowId)
  | clip (rect : Option Rect) (screen : Rect)
  | warp (x y : Int32) (screen : Rect)
  | flush
  | fail
  deriving DecidableEq, Repr, Inhabited

/-- Does something. Requests may be refused, and only events have deliveries. -/
def perform (S : DisplayServer σ) (s : Seat) :
    Operation → Checked σ (Except SeatError Unit × List Delivery × Seat)
  | .event screen e => do
    let (s, deliveries) ← s.dispatch S screen e
    return (.ok (), deliveries, s)
  | .startInput window handle => do
    let (result, s) ← s.startInput S window handle
    return (result, [], s)
  | .stopInput window => do
    let (_, s) ← s.stopInput S window
    return (.ok (), [], s)
  | .clip rect screen => do
    let (result, s) ← s.clip S rect screen
    return (result, [], s)
  | .warp x y screen => do
    let (result, s) ← s.warp S x y screen
    return (result, [], s)
  | .flush => return (.ok (), [], ← s.flushIfPending S)
  | .fail => return (.ok (), [], s.fail)

/-- An operation with the states around it, its result and what it delivers. -/
structure Step where
  before : Seat
  operation : Operation
  result : Except SeatError Unit
  deliveries : List Delivery
  after : Seat

def Step.Possible (S : DisplayServer σ) (t : Step) : Prop :=
  (t.before.perform S t.operation).Yields (t.result, t.deliveries, t.after)

/-- The steps that lead from one state of the seat to another. -/
inductive Run (S : DisplayServer σ) (start : Seat) : List Step → Seat → Prop where
  | nil : Run S start [] start
  | snoc {steps : List Step} {t : Step} :
      Run S start steps t.before → t.Possible S → Run S start (steps ++ [t]) t.after

/-- The display server refuses a window that is registered already. -/
def Step.RefusesRegistered (t : Step) : Prop :=
  ∃ window handle refusal, t.operation = .startInput window handle ∧
    t.before.windows.lookup? window ≠ none ∧ t.result = .error (.refused refusal)

variable {S : DisplayServer σ} {start s : Seat} {steps : List Step} {t : Step}

/-- A step is an event, or it delivers nothing and at most registers or stops a window. -/
theorem Step.Possible.cases (possible : t.Possible S) :
    (∃ screen e, t.operation = .event screen e ∧
      (t.before.dispatch S screen e).Yields (t.after, t.deliveries)) ∨
    (∀ screen e, t.operation ≠ .event screen e) ∧ t.deliveries = [] ∧
      ((∃ window handle, t.operation = .startInput window handle ∧
          (t.before.startInput S window handle).Yields (t.result, t.after)) ∨
        (∃ window r, (t.before.stopInput S window).Yields (r, t.after)) ∨
        t.before.Undisturbed t.after) := by
  obtain ⟨before, operation, result, deliveries, after⟩ := t
  cases operation with
  | event screen e =>
    -- an event alone may deliver, and it alone may overflow
    obtain ⟨⟨s, ds⟩, hdispatch, h⟩ := Yields.of_bind possible
    cases h.of_pure
    exact .inl ⟨screen, e, rfl, hdispatch⟩
  | startInput window handle =>
    obtain ⟨⟨r, s⟩, hstart, h⟩ := Yields.of_bind possible
    cases h.of_pure
    exact .inr ⟨by simp, rfl, .inl ⟨window, handle, rfl, hstart.of_talk⟩⟩
  | stopInput window =>
    obtain ⟨⟨r, s⟩, hstop, h⟩ := Yields.of_bind possible
    cases h.of_pure
    exact .inr ⟨by simp, rfl, .inr (.inl ⟨window, r, hstop.of_talk⟩)⟩
  | clip rect screen =>
    obtain ⟨⟨r, s⟩, hclip, h⟩ := Yields.of_bind possible
    cases h.of_pure
    exact .inr ⟨by simp, rfl, .inr (.inr (clip_undisturbed hclip.of_talk))⟩
  | warp x y screen =>
    obtain ⟨⟨r, s⟩, hwarp, h⟩ := Yields.of_bind possible
    cases h.of_pure
    exact .inr ⟨by simp, rfl, .inr (.inr (warp_undisturbed hwarp.of_talk))⟩
  | flush =>
    obtain ⟨s, hflush, h⟩ := Yields.of_bind possible
    cases h.of_pure
    exact .inr ⟨by simp, rfl, .inr (.inr (flushIfPending_undisturbed hflush.of_talk))⟩
  | fail =>
    have h : (result, deliveries, after) = (.ok (), [], before.fail) := Yields.of_pure possible
    obtain ⟨-, rfl, rfl⟩ : result = .ok () ∧ deliveries = [] ∧ after = before.fail := by
      simpa using h
    exact .inr ⟨by simp, rfl, .inr (.inr (fail_undisturbed before))⟩

theorem Step.Possible.continues (possible : t.Possible S) : t.before.Continues t.after := by
  rcases possible.cases with ⟨screen, e, -, hdispatch⟩ |
    ⟨-, -, ⟨window, handle, -, hstart⟩ | ⟨window, r, hstop⟩ | same⟩
  · exact (dispatch_keeps hdispatch).toContinues
  · exact startInput_continues hstart
  · exact (stopInput_yields hstop).1
  · exact same.toContinues

theorem Run.possible (run : Run S start steps s) (ht : t ∈ steps) : t.Possible S := by
  induction run with
  | nil => cases ht
  | snoc _ possible ih =>
    rcases List.mem_append.mp ht with ht | ht
    · exact ih ht
    · cases List.mem_singleton.mp ht
      exact possible

/-! ## Playing -/

/-- The step that a seat takes with an operation in a state of the display server, unless it
overflows. -/
def stepOf? (S : DisplayServer σ) (s : Seat) (operation : Operation) (w : World σ) :
    Option Step :=
  match ((s.perform S operation).run w).1 with
  | .error _ => none
  | .ok (result, deliveries, after) => some { before := s, operation, result, deliveries, after }

theorem of_stepOf? {operation : Operation} {w : World σ}
    (h : s.stepOf? S operation w = some t) :
    t.before = s ∧ t.operation = operation ∧
      ((s.perform S operation).run w).1 = .ok (t.result, t.deliveries, t.after) := by
  unfold stepOf? at h
  split at h
  · cases h
  · next heq =>
    cases h
    exact ⟨rfl, rfl, heq⟩

theorem stepOf?_possible {operation : Operation} {w : World σ}
    (h : s.stepOf? S operation w = some t) : t.Possible S := by
  obtain ⟨rfl, rfl, heq⟩ := of_stepOf? h
  exact ⟨w, heq⟩

/-- The steps that a seat takes with operations, each in a state of the server, up to one that
overflows. -/
def play (S : DisplayServer σ) (s : Seat) : List (Operation × World σ) → List Step
  | [] => []
  | (operation, w) :: rest =>
    match s.stepOf? S operation w with
    | none => []
    | some t => t :: play S t.after rest

/-- The state after the last of some steps. -/
def finish (s : Seat) (steps : List Step) : Seat := steps.foldl (fun _ t => t.after) s

theorem Run.play (run : Run S start steps s) (operations : List (Operation × World σ)) :
    Run S start (steps ++ s.play S operations) (s.finish (s.play S operations)) := by
  induction operations generalizing steps s with
  | nil => simpa [Seat.play, finish] using run
  | cons first rest ih =>
    obtain ⟨operation, w⟩ := first
    rw [Seat.play]
    cases hstep : s.stepOf? S operation w with
    | none => simpa [finish] using run
    | some t =>
      obtain ⟨rfl, -⟩ := of_stepOf? hstep
      have stepped : Run S start (steps ++ [t]) t.after := .snoc run (stepOf?_possible hstep)
      simpa [finish] using ih stepped

theorem run_play (S : DisplayServer σ) (s : Seat) (operations : List (Operation × World σ)) :
    Run S s (s.play S operations) (s.finish (s.play S operations)) :=
  Run.nil.play operations

/-- A display server with a keyboard of two groups, which grants everything. -/
def twoGroupServer : DisplayServer Unit where
  openLink _ server := (.ok ⟨0, 0x100, 800, 600⟩, server)
  answer _ r server :=
    (match r with
      | .pointer => .ok ⟨2, none, none⟩
      | .keyboard => .ok 3
      | .keyboardReport _ => .ok ⟨0, 0⟩
      | .rules => .ok {}
      | .keymap _ => .ok .twoGroups
      | .warp .. => .ok 1
      | .createBarrier _ => .ok 1
      | .barrierSupport | .startEvents | .flush | .selectInput .. | .deleteBarrier _ => .ok (),
      server)
  closeLink _ server := server

end Seat

end InputBridge
