-- SUMMARY: Steps and runs of the broker, invariants of runs, and playing actions.
import InputBridge.Broker.Request
import InputBridge.Proofs.Talk

/-!
# Runs of the broker

The broker does one thing after the other: it handles a message of a client, an event
or a failure of a seat, or the departure of a client, in whatever order they come.
Between two steps the display servers may go on by themselves, so each step begins in
any state of theirs. An event that overflows is no step: it ends the program, and the
run with it.
-/

namespace InputBridge

namespace Broker

open Checked (Yields)

variable {σ : Type}

/-- What the broker is given to handle. -/
inductive Action where
  | message (c : ClientId) (m : Message)
  | event (seat : SeatId) (e : Event)
  | failure (seat : SeatId)
  | departure (c : ClientId)
  deriving DecidableEq, Repr, Inhabited

/-- Handles an action. Messages have an answer. -/
def act (S : DisplayServer σ) (b : Broker) :
    Action → Checked σ (Option Message × List Outbound × Broker)
  | .message c m => do
    let (answer, out, b) ← b.handle S c m
    return (some answer, out, b)
  | .event seat e => do
    let (out, b) ← b.dispatch S seat e
    return (none, out, b)
  | .failure seat => return (none, [], b.markFailed seat)
  | .departure c => return (none, [], ← b.removeClient S c)

/-- An action with the states around it, its answer and what is sent unasked. -/
structure Step where
  before : Broker
  action : Action
  answer : Option Message
  out : List Outbound
  after : Broker
  deriving Repr, Inhabited

def Step.Possible (S : DisplayServer σ) (s : Step) : Prop :=
  (s.before.act S s.action).Yields (s.answer, s.out, s.after)

/-! ## Steps -/

section Steps

variable {S : DisplayServer σ} {s : Step} {c : ClientId} {id : SeatId}

theorem Step.Possible.of_message {m : Message} (possible : s.Possible S)
    (haction : s.action = .message c m) : ∃ answer, s.answer = some answer ∧
      (s.before.handle S c m).Yields (answer, s.out, s.after) := by
  rw [Possible, haction] at possible
  obtain ⟨⟨answer, out, b⟩, hhandle, h⟩ := Yields.of_bind possible
  obtain ⟨hanswer, rfl, rfl⟩ : s.answer = some answer ∧ s.out = out ∧ s.after = b := by
    simpa using h.of_pure
  exact ⟨answer, hanswer, hhandle.of_talk⟩

theorem Step.Possible.of_event {e : Event} (possible : s.Possible S)
    (haction : s.action = .event id e) : (s.before.dispatch S id e).Yields (s.out, s.after) := by
  rw [Possible, haction] at possible
  obtain ⟨⟨out, b⟩, hdispatch, h⟩ := Yields.of_bind possible
  obtain ⟨-, rfl, rfl⟩ : s.answer = none ∧ s.out = out ∧ s.after = b := by simpa using h.of_pure
  exact hdispatch

theorem Step.Possible.of_failure (possible : s.Possible S) (haction : s.action = .failure id) :
    s.out = [] ∧ s.after = s.before.markFailed id := by
  rw [Possible, haction] at possible
  obtain ⟨-, hout, hafter⟩ : s.answer = none ∧ s.out = [] ∧
      s.after = s.before.markFailed id := by simpa using Yields.of_pure possible
  exact ⟨hout, hafter⟩

theorem Step.Possible.of_departure (possible : s.Possible S) (haction : s.action = .departure c) :
    s.out = [] ∧ (s.before.removeClient S c).Yields s.after := by
  rw [Possible, haction] at possible
  obtain ⟨b, hremove, h⟩ := Yields.of_bind possible
  obtain ⟨-, hout, rfl⟩ : s.answer = none ∧ s.out = [] ∧ s.after = b := by simpa using h.of_pure
  exact ⟨hout, hremove.of_talk⟩

end Steps

/-! ## Runs -/

/-- The steps that lead from one state of the broker to another. -/
inductive Run (S : DisplayServer σ) (start : Broker) : List Step → Broker → Prop where
  | nil : Run S start [] start
  | snoc {steps : List Step} {s : Step} :
      Run S start steps s.before → s.Possible S → Run S start (steps ++ [s]) s.after

/-- The states that a broker can come to from its beginning. -/
def Reachable (S : DisplayServer σ) (b : Broker) : Prop :=
  ∃ config steps, Run S { config } steps b

variable {S : DisplayServer σ} {start b : Broker} {steps : List Step}

/-- An element of a list that grows at its end is the last one or was there before. -/
theorem snoc_eq_append_cons {α : Type} {l earlier later : List α} {last x : α}
    (h : earlier ++ x :: later = l ++ [last]) :
    (later = [] ∧ earlier = l ∧ x = last) ∨
      ∃ middle, later = middle ++ [last] ∧ earlier ++ x :: middle = l := by
  rcases List.eq_nil_or_concat later with rfl | ⟨middle, y, rfl⟩
  · obtain ⟨rfl, heq⟩ := List.append_inj' h rfl
    cases heq
    exact .inl ⟨rfl, rfl, rfl⟩
  · rw [List.concat_eq_append, ← List.cons_append, ← List.append_assoc] at h
    obtain ⟨rfl, heq⟩ := List.append_inj' h rfl
    cases heq
    exact .inr ⟨middle, List.concat_eq_append, rfl⟩

/-- A run is cut at any of its steps. -/
theorem Run.split {earlier later : List Step} {s : Step}
    (run : Run S start (earlier ++ s :: later) b) :
    Run S start earlier s.before ∧ s.Possible S ∧ Run S s.after later b := by
  generalize hsteps : earlier ++ s :: later = steps at run
  -- a run grows at its end, so the steps are taken off there
  induction run generalizing later with
  | nil => simp at hsteps
  | snoc run possible ih =>
    rcases snoc_eq_append_cons hsteps with ⟨rfl, rfl, rfl⟩ | ⟨middle, rfl, hinit⟩
    · exact ⟨run, possible, .nil⟩
    · obtain ⟨before, hs, after⟩ := ih hinit
      exact ⟨before, hs, after.snoc possible⟩

/-- What holds at the start and is kept by every step holds after every run. -/
theorem Run.invariant {I : Broker → Prop} (run : Run S start steps b) (hstart : I start)
    (hstep : ∀ s : Step, I s.before → s.Possible S → I s.after) : I b := by
  induction run with
  | nil => exact hstart
  | snoc _ possible ih => exact hstep _ ih possible

theorem Reachable.invariant {I : Broker → Prop} (reachable : Reachable S b)
    (hstart : ∀ config, I { config })
    (hstep : ∀ s : Step, I s.before → s.Possible S → I s.after) : I b := by
  obtain ⟨config, steps, run⟩ := reachable
  exact run.invariant (hstart config) hstep

theorem Reachable.snoc {s : Step} (reachable : Reachable S s.before) (possible : s.Possible S) :
    Reachable S s.after := by
  obtain ⟨config, steps, run⟩ := reachable
  exact ⟨config, steps ++ [s], run.snoc possible⟩

/-! ## Playing -/

/-- The step that the broker takes with an action in a state of the display servers, unless it
overflows. -/
def stepOf? (S : DisplayServer σ) (b : Broker) (action : Action) (w : World σ) : Option Step :=
  match ((b.act S action).run w).1 with
  | .error _ => none
  | .ok (answer, out, after) => some { before := b, action, answer, out, after }

theorem of_stepOf? {action : Action} {w : World σ} {s : Step}
    (h : b.stepOf? S action w = some s) :
    s.before = b ∧ s.action = action ∧
      ((b.act S action).run w).1 = .ok (s.answer, s.out, s.after) := by
  unfold stepOf? at h
  split at h
  · cases h
  · next heq =>
    cases h
    exact ⟨rfl, rfl, heq⟩

theorem stepOf?_possible {action : Action} {w : World σ} {s : Step}
    (h : b.stepOf? S action w = some s) : s.Possible S := by
  obtain ⟨rfl, rfl, heq⟩ := of_stepOf? h
  exact ⟨w, heq⟩

/-- A broker that has done nothing yet and may connect to displays. -/
def fresh : Broker where
  config := { displaysEnabled := true }

/-- The steps that the broker takes with actions, each in a state of its own, up to one that
overflows. -/
def play (S : DisplayServer σ) (b : Broker) : List (Action × World σ) → List Step
  | [] => []
  | (action, w) :: rest =>
    match b.stepOf? S action w with
    | none => []
    | some s => s :: play S s.after rest

/-- The state after the last of some steps. -/
def finish (b : Broker) (steps : List Step) : Broker := steps.foldl (fun _ s => s.after) b

theorem Run.play (run : Run S start steps b) (actions : List (Action × World σ)) :
    Run S start (steps ++ b.play S actions) (b.finish (b.play S actions)) := by
  induction actions generalizing steps b with
  | nil => simpa [Broker.play, finish] using run
  | cons first rest ih =>
    obtain ⟨action, w⟩ := first
    rw [Broker.play]
    cases hstep : b.stepOf? S action w with
    | none => simpa [finish] using run
    | some s =>
      obtain ⟨rfl, -⟩ := of_stepOf? hstep
      have stepped : Run S start (steps ++ [s]) s.after := .snoc run (stepOf?_possible hstep)
      simpa [finish] using ih stepped

theorem run_play (S : DisplayServer σ) (b : Broker) (actions : List (Action × World σ)) :
    Run S b (b.play S actions) (b.finish (b.play S actions)) :=
  Run.nil.play actions

/-- A display server with an empty keyboard. Its state says whether it refuses to
flush; it grants everything else. -/
def plainServer : DisplayServer Bool where
  openLink _ refuses := (.ok ⟨0, 0x100, 800, 600⟩, refuses)
  answer _ r refuses :=
    (match r with
      | .pointer => .ok ⟨2, none, none⟩
      | .keyboard => .ok 3
      | .keyboardReport _ => .ok ⟨0, 0⟩
      | .rules => .ok {}
      | .keymap _ => .ok ⟨8, 8, 0, fun _ => none, fun _ _ => none, fun _ => 0, fun _ _ _ => none⟩
      | .warp .. => .ok 1
      | .createBarrier _ => .ok 1
      | .flush => if refuses then .error (.request "broken pipe") else .ok ()
      | .barrierSupport | .startEvents | .selectInput .. | .deleteBarrier _ => .ok (), refuses)
  closeLink _ refuses := refuses

end Broker

end InputBridge
