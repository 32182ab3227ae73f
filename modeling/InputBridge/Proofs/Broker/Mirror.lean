-- SUMMARY: The broker's records agree with the tables of the seats, but for windows that are refused again.
import InputBridge.Proofs.Broker.Ownership
import InputBridge.Proofs.Broker.Tables

/-!
# Seats and records agree

The broker's records are the tables of the seats put together, with an owner for each
window, and every owner is attached to a seat that is there. This lasts as long as the
display server does not refuse a window that is registered already: such a refusal takes
the window from the seat and leaves the record.
-/

namespace InputBridge

namespace Broker

variable {σ : Type} {S : DisplayServer σ} {b b' : Broker} {c : ClientId} {id : SeatId}
  {window : WindowId} {handle : Handle} {config : BrokerConfig} {steps : List Step}

/-! ## Seats that are to come -/

/-- Nothing is recorded for a seat that is still to come. -/
theorem recordsOf_nextId (balanced : b.Balanced) (owned : b.Owned) (window : WindowId) :
    b.recordsOf b.seats.nextId window = none := by
  apply Option.eq_none_iff_forall_ne_some.mpr
  rintro ⟨c, handle⟩ hsome
  have hpresent := balanced.isSome_of_seatOf (owned.windows _ window c handle hsome)
  rw [balanced.seats.fresh b.seats.nextId (Nat.le_refl _)] at hpresent
  cases hpresent

/-! ## Agreement -/

/-- The windows of each seat are those that are recorded for it, with the same handles. -/
def Mirrored (b : Broker) : Prop := b.EverySeat Eq

/-- The display server refuses a client a window that the seat has registered already. -/
def Step.RefusesRegistered (s : Step) : Prop :=
  ∃ c id window handle seat, s.Withdraws c id window handle ∧
    s.before.seats.get? id = some seat ∧ seat.windows.lookup? window ≠ none

theorem Mirrored.move (h : b.Mirrored) (balanced : b.Balanced) (owned : b.Owned)
    (move : Move S b b') : b'.Mirrored := by
  refine EverySeat.move (fun _ => rfl) h move fun window => ?_
  rw [recordsOf_nextId balanced owned]
  rfl

/-- A window that was new and is refused is neither at the seat nor recorded. -/
theorem Mirrored.withdraw (h : b.Mirrored) (withdrawn : Withdrawal b b' c id window handle)
    (hnew : ∀ seat, b.seats.get? id = some seat → seat.windows.lookup? window = none) :
    b'.Mirrored := by
  refine EverySeat.withdraw h withdrawn fun seat hseat => ?_
  rw [← (h id seat hseat).handles, hnew seat hseat]

theorem Moves.mirrored (moves : Moves S b b') (balanced : b.Balanced) (owned : b.Owned)
    (h : b.Mirrored) : b'.Mirrored := by
  have all : b'.Balanced ∧ b'.Owned ∧ b'.Mirrored := by
    refine moves.invariant (I := fun b => b.Balanced ∧ b.Owned ∧ b.Mirrored)
      ⟨balanced, owned, h⟩ ?_
    rintro b₁ b₂ ⟨balanced, owned, mirrored⟩ move
    exact ⟨balanced.move move, owned.move move, mirrored.move balanced owned move⟩
  exact all.2.2

theorem Run.mirrored (run : Run S { config } steps b) (h : ∀ s ∈ steps, ¬s.RefusesRegistered) :
    b.Mirrored := by
  induction run with
  | nil => exact .empty config
  | @snoc steps s run possible ih =>
    have mirrored := ih fun s hs => h s (List.mem_append_left _ hs)
    have reachable : Reachable S s.before := ⟨config, steps, run⟩
    rcases possible.cases with ⟨moves, -⟩ | ⟨c, id, window, handle, withdraws, withdrawn⟩ |
      ⟨c, id, window, handle, -, registered⟩
    · exact moves.mirrored reachable.balanced reachable.owned mirrored
    · refine mirrored.withdraw withdrawn fun seat hseat => ?_
      -- had the seat had the window, this would be a refusal that is ruled out
      apply Decidable.byContradiction
      intro hold
      exact h s (by simp) ⟨c, id, window, handle, seat, withdraws, hseat, hold⟩
    · exact EverySeat.register (fun _ => rfl) mirrored registered

/-- Unless the server refuses a window that is registered already, the windows of each seat
are those that are recorded for it, with the same handles, and whoever owns one is attached
to the seat, which is there. -/
theorem Run.registered_iff (run : Run S { config } steps b)
    (h : ∀ s ∈ steps, ¬s.RefusesRegistered) :
    (∀ id seat, b.seats.get? id = some seat → (seat.windows.entries.map Prod.fst).Nodup ∧
      ∀ window handle, (window, handle) ∈ seat.windows.entries ↔
        ∃ c, b.windows.get? (id, window) = some (c, handle)) ∧
    ∀ id window c handle, b.windows.get? (id, window) = some (c, handle) →
      b.seatOf c = some id ∧ (b.seats.get? id).isSome := by
  have reachable : Reachable S b := ⟨config, steps, run⟩
  refine ⟨?_, ?_⟩
  · intro id seat hseat
    obtain ⟨distinct, handles⟩ := run.mirrored h id seat hseat
    refine ⟨distinct, fun window handle => ?_⟩
    rw [WindowTable.mem_entries_iff distinct, handles, Option.map_eq_some_iff]
    simp [recordsOf]
  · intro id window c handle hsome
    have hc := reachable.owned.windows id window c handle hsome
    exact ⟨hc, reachable.balanced.isSome_of_seatOf hc⟩

/-- A client registers a window, and another client of the display takes it over. -/
def takeover : List (Action × World Bool) :=
  [(.message 0 (.hello 0 1 .desktop), ⟨false, 1⟩), (.message 1 (.hello 0 1 .desktop), ⟨false, 1⟩),
    (.message 0 (.connect 1 ":0"), ⟨false, 1⟩), (.message 1 (.connect 1 ":0"), ⟨false, 1⟩),
    (.message 0 (.startInput 2 0x500 1), ⟨false, 1⟩),
    (.message 1 (.startInput 2 0x500 2), ⟨false, 1⟩)]

/-- The seat has the window under the handle of its new owner. -/
theorem takeover_registered :
    let b := fresh.finish (fresh.play plainServer takeover)
    b.windows.get? (0, 0x500) = some (1, 2) ∧
      (∀ id seat, b.seats.get? id = some seat → (seat.windows.entries.map Prod.fst).Nodup ∧
        ∀ window handle, (window, handle) ∈ seat.windows.entries ↔
          ∃ c, b.windows.get? (id, window) = some (c, handle)) ∧
      ∀ id window c handle, b.windows.get? (id, window) = some (c, handle) →
        b.seatOf c = some id ∧ (b.seats.get? id).isSome := by
  refine ⟨rfl, Run.registered_iff (run_play plainServer fresh takeover) ?_⟩
  rintro s hs ⟨c, id, window, handle, seat, ⟨-, requestId, -, hanswer⟩, -⟩
  -- every request of the run is granted
  have answers : (fresh.play plainServer takeover).map Step.answer =
      [some (.helloAck 0 .ok none), some (.helloAck 0 .ok none),
        some (.response ⟨1, .ok, none, some 0x100, some 800, some 600, none, none, none, none⟩),
        some (.response ⟨1, .ok, none, some 0x100, some 800, some 600, none, none, none, none⟩),
        some (.response { id := 2 }), some (.response { id := 2 })] := rfl
  have hmem := List.mem_map_of_mem (f := Step.answer) hs
  rw [answers, hanswer] at hmem
  simp [Response.failure] at hmem

end Broker

end InputBridge
