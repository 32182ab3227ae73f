-- SUMMARY: The tables of seats and the broker's records along moves and registrations.
import InputBridge.Proofs.Broker.Steps
import Mathlib.Logic.Function.Basic

/-!
# Windows at seats and in the records

Which windows are registered is kept twice: every seat has a table of its own, and the
broker has records of all of them. Seen from one seat, a move takes a window out of both
or changes neither, and a registration that is granted puts one into both, under the same
handle. Only a refusal takes a window out of the table alone. So what relates the two is
kept by the other steps, and is to be checked for refusals.
-/

namespace InputBridge

namespace Broker

variable {σ : Type} {S : DisplayServer σ} {b b' : Broker} {c : ClientId} {id other : SeatId}
  {seat seat' : Seat} {window : WindowId} {handle : Handle}

/-! ## Records of one seat -/

/-- Whose the windows of a seat are, and under which handles. -/
abbrev Records := WindowId → Option (ClientId × Handle)

def recordsOf (b : Broker) (id : SeatId) : Records := fun window => b.windows.get? (id, window)

theorem recordsOf_forgetWindow_self : (b.forgetWindow id window).recordsOf id =
    Function.update (b.recordsOf id) window none := by
  funext w
  simp only [recordsOf, windows_forgetWindow, Function.update_apply, Prod.mk.injEq, true_and,
    eq_comm]

theorem recordsOf_forgetWindow_of_ne (h : id ≠ other) :
    (b.forgetWindow id window).recordsOf other = b.recordsOf other := by
  funext w
  simp [recordsOf, windows_forgetWindow, h]

theorem recordsOf_ownWindow_self : (b.ownWindow id window handle c).recordsOf id =
    Function.update (b.recordsOf id) window (some (c, handle)) := by
  funext w
  simp only [recordsOf, windows_ownWindow, Function.update_apply, Prod.mk.injEq, true_and,
    eq_comm]

theorem recordsOf_ownWindow_of_ne (h : id ≠ other) :
    (b.ownWindow id window handle c).recordsOf other = b.recordsOf other := by
  funext w
  simp [recordsOf, windows_ownWindow, h]

/-! ## Tables and records -/

/-- The handle that a table has for a window, if any, is related to the one that the window
is recorded with. -/
structure Related (P : Option Handle → Option Handle → Prop) (table : WindowTable)
    (records : Records) : Prop where
  distinct : table.Distinct
  handles : ∀ window, P (table.lookup? window) ((records window).map Prod.snd)

variable {P : Option Handle → Option Handle → Prop} {table table' : WindowTable}
  {records : Records}

theorem Related.empty (h : ∀ window, P none ((records window).map Prod.snd)) :
    Related P {} records where
  distinct := .empty
  handles := h

theorem Related.remove (refl : ∀ x, P x x) (h : Related P table records) (window : WindowId) :
    Related P (table.remove window).2 (Function.update records window none) where
  distinct := h.distinct.remove
  handles other := by
    rw [WindowTable.lookup?_remove h.distinct, Function.update_apply]
    split
    · exact refl none
    · exact h.handles other

theorem Related.insert? (refl : ∀ x, P x x) (h : Related P table records)
    (hinsert : table.insert? window handle = some table') :
    Related P table' (Function.update records window (some (c, handle))) where
  distinct := h.distinct.insert? hinsert
  handles other := by
    rw [WindowTable.lookup?_insert? hinsert, Function.update_apply]
    split
    · exact refl (some handle)
    · exact h.handles other

/-- The records keep a window that was refused, but the table does not have it. -/
theorem Related.withdraw (h : Related P table records)
    (hinsert : table.insert? window handle = some table')
    (hnone : P none ((records window).map Prod.snd)) :
    Related P (table'.remove window).2 records where
  distinct := (h.distinct.insert? hinsert).remove
  handles other := by
    rw [WindowTable.lookup?_remove (h.distinct.insert? hinsert),
      WindowTable.lookup?_insert? hinsert]
    split
    · next heq => exact heq ▸ hnone
    · exact h.handles other

/-- The tables of all seats are related to their records. -/
def EverySeat (P : Option Handle → Option Handle → Prop) (b : Broker) : Prop :=
  ∀ id seat, b.seats.get? id = some seat → Related P seat.windows (b.recordsOf id)

theorem EverySeat.empty (config : BrokerConfig) : EverySeat P { config } := by
  intro id seat hseat
  cases hseat

/-- Nothing changes for windows where seats go or stay as they are. -/
theorem EverySeat.congr (h : b.EverySeat P) (hwindows : b'.windows = b.windows)
    (hseats : ∀ id seat', b'.seats.get? id = some seat' →
      Related P seat'.windows (b.recordsOf id) ∨
        ∃ seat, b.seats.get? id = some seat ∧ seat'.windows = seat.windows) : b'.EverySeat P := by
  intro id seat' hseat'
  have hrecords : b'.recordsOf id = b.recordsOf id := by
    funext window
    rw [recordsOf, hwindows, recordsOf]
  rw [hrecords]
  rcases hseats id seat' hseat' with hnew | ⟨seat, hseat, hsame⟩
  · exact hnew
  · rw [hsame]
    exact h id seat hseat

/-- One seat changes, with the records of its windows. -/
theorem EverySeat.set (h : b.EverySeat P) (hseats : b'.seats = b.seats.set id seat')
    (hrelated : Related P seat'.windows (b'.recordsOf id))
    (hothers : ∀ other, id ≠ other → b'.recordsOf other = b.recordsOf other) :
    b'.EverySeat P := by
  intro other new hnew
  rw [hseats, SharedSeats.get?_set] at hnew
  split at hnew
  · next heq =>
    subst heq
    obtain ⟨-, -, rfl⟩ := Option.map_eq_some_iff.mp hnew
    exact hrelated
  · next hne =>
    rw [hothers other hne]
    exact h other new hnew

/-- Moves keep what relates tables to records if it holds of a seat that has just been
opened. -/
theorem EverySeat.move (refl : ∀ x, P x x) (h : b.EverySeat P) (move : Move S b b')
    (hopen : ∀ window, P none ((b.recordsOf b.seats.nextId window).map Prod.snd)) :
    b'.EverySeat P := by
  cases move with
  | greet | depart => exact h.congr rfl fun _ seat hseat => .inr ⟨seat, hseat, rfl⟩
  | @proceed id seat seat' hseat keeps =>
    refine h.set rfl ?_ fun _ _ => rfl
    rw [keeps.windows]
    exact h id seat hseat
  | fail id =>
    -- a seat that fails has the windows that it had
    refine h.congr rfl fun other seat' hseat' => ?_
    have hmarked : (b.seats.markFailed id).get? other = some seat' := hseat'
    rw [SharedSeats.get?_markFailed] at hmarked
    split at hmarked
    · obtain ⟨seat, hseat, rfl⟩ := Option.map_eq_some_iff.mp hmarked
      exact .inr ⟨seat, hseat, rfl⟩
    · exact .inr ⟨seat', hmarked, rfl⟩
  | @forget id window hgone =>
    intro other seat hseat
    rw [seats_forgetWindow] at hseat
    have hne : id ≠ other := by
      rintro rfl
      rw [hgone] at hseat
      cases hseat
    rw [recordsOf_forgetWindow_of_ne hne]
    exact h other seat hseat
  | @stop id seat seat' window hseat continues hwindows =>
    refine h.set rfl ?_ fun other hne => recordsOf_forgetWindow_of_ne hne
    rw [hwindows]
    have hrecords : (b.forgetWindow id window).recordsOf id =
        Function.update (b.recordsOf id) window none := recordsOf_forgetWindow_self
    exact hrecords ▸ (h id seat hseat).remove refl window
  | leave _ _ hrelease =>
    exact h.congr rfl fun _ seat hseat =>
      .inr ⟨seat, SharedSeats.get?_of_release hrelease hseat, rfl⟩
  | join _ htake =>
    -- the seat was there before, or is new and has no windows
    refine h.congr rfl fun other seat' hseat' => ?_
    rcases SharedSeats.take_yields htake with
      ⟨_, shared, ⟨-, hshared⟩, -, rfl⟩ | ⟨-, ⟨_, hr, -⟩ | ⟨new, -, rfl, hconnect⟩⟩
    · have hsame : (b.seats.retain _ shared).get? other = b.seats.get? other :=
        SharedSeats.get?_retain hshared
      exact .inr ⟨seat', hsame.symm.trans hseat', rfl⟩
    · cases hr
    · have hadded : (b.seats.addSeat _ new).get? other = some seat' := hseat'
      rw [SharedSeats.get?_addSeat] at hadded
      split at hadded
      · next heq =>
        cases hadded
        obtain ⟨-, hempty, -⟩ := Seat.connect_yields hconnect
        exact .inl (hempty ▸ heq ▸ .empty hopen)
      · exact .inr ⟨seat', hadded, rfl⟩

theorem EverySeat.withdraw (h : b.EverySeat P) (withdrawn : Withdrawal b b' c id window handle)
    (hnone : ∀ seat, b.seats.get? id = some seat →
      P none ((b.recordsOf id window).map Prod.snd)) : b'.EverySeat P := by
  obtain ⟨-, seat, seat', table, hseat, -, hinsert, hwindows, rfl⟩ := withdrawn
  refine h.set rfl ?_ fun _ _ => rfl
  rw [hwindows]
  exact (h id seat hseat).withdraw hinsert (hnone seat hseat)

theorem EverySeat.register (refl : ∀ x, P x x) (h : b.EverySeat P)
    (registered : Registration b b' c id window handle) : b'.EverySeat P := by
  obtain ⟨-, seat, seat', hseat, -, -, hinsert, rfl⟩ := registered
  refine h.set seats_ownWindow ?_ fun other hne => recordsOf_ownWindow_of_ne hne
  rw [recordsOf_ownWindow_self]
  exact (h id seat hseat).insert? refl hinsert

end Broker

end InputBridge
