-- SUMMARY: Runs of a seat with the record of its calls.
import InputBridge.Proofs.Recording
import InputBridge.Proofs.Seat.Run

/-!
# Recorded runs of a seat

Runs of a seat together with all that the display server is asked on the way.
-/

namespace InputBridge

namespace Seat

variable {σ : Type} {S : DisplayServer σ} {start s : Seat} {steps : List Step} {t : Step}
  {l m l' : List Call}

/-- The step may be taken when the calls so far are `l`, and then they are `l'`. -/
def Step.Calls (S : DisplayServer σ) (t : Step) (l l' : List Call) : Prop :=
  (t.before.perform S.recorded t.operation).Leads l (t.result, t.deliveries, t.after) l'

/-- The steps that lead from one state of the seat to another, with the calls by then. Between
two steps the display server may go on by itself, but the record stays. -/
inductive RecordedRun (S : DisplayServer σ) (start : Seat) (l : List Call) :
    List Step → Seat → List Call → Prop where
  | nil : RecordedRun S start l [] start l
  | snoc {steps : List Step} {t : Step} {m l' : List Call} :
      RecordedRun S start l steps t.before m → t.Calls S m l' →
        RecordedRun S start l (steps ++ [t]) t.after l'

/-- A seat that is set up in some state of the server is one that runs may begin with. -/
theorem connect_leads {display : String} {w : World (Recorded σ)} (hnone : w.server.calls = [])
    (opened : (connect S.recorded display w).1.toOption.isSome) :
    (connect S.recorded display).Leads []
      (.ok ((connect S.recorded display w).1.toOption.getD default))
      (connect S.recorded display w).2.server.calls := by
  refine ⟨w, hnone, ?_, rfl⟩
  cases h : (connect S.recorded display w).1 with
  | ok seat => rfl
  | error e => simp [h, Except.toOption] at opened

/-! ## Playing -/

/-- The steps that a seat takes with operations, each in a state of the server, up to one that
overflows, and the calls after them. -/
def playRecorded (S : DisplayServer σ) (s : Seat) (l : List Call) :
    List (Operation × World σ) → List Step × List Call
  | [] => ([], l)
  | (operation, w) :: rest =>
    let w := { w with server := { server := w.server, calls := l } }
    match s.stepOf? S.recorded operation w with
    | none => ([], l)
    | some t =>
      let (steps, l') :=
        playRecorded S t.after ((s.perform S.recorded operation).run w).2.server.calls rest
      (t :: steps, l')

theorem RecordedRun.play (run : RecordedRun S start l steps s m)
    (operations : List (Operation × World σ)) :
    RecordedRun S start l (steps ++ (s.playRecorded S m operations).1)
      (s.finish (s.playRecorded S m operations).1) (s.playRecorded S m operations).2 := by
  induction operations generalizing steps s m with
  | nil => simpa [playRecorded, finish] using run
  | cons first rest ih =>
    obtain ⟨operation, w⟩ := first
    rw [playRecorded]
    dsimp only
    cases hstep : s.stepOf? S.recorded operation
        { w with server := { server := w.server, calls := m } } with
    -- an operation that overflows ends the run before it
    | none => simpa [finish] using run
    | some t =>
      obtain ⟨rfl, rfl, hperform⟩ := of_stepOf? hstep
      have stepped := ih (run.snoc ⟨_, rfl, hperform, rfl⟩)
      simpa [finish] using stepped

theorem recordedRun_play (S : DisplayServer σ) (s : Seat) (l : List Call)
    (operations : List (Operation × World σ)) :
    RecordedRun S s l (s.playRecorded S l operations).1
      (s.finish (s.playRecorded S l operations).1) (s.playRecorded S l operations).2 :=
  RecordedRun.nil.play operations

end Seat

end InputBridge
