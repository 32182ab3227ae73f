-- SUMMARY: Who has a handle, told by the history of registrations alone.
import InputBridge.Proofs.Broker.Steps

/-!
# Whose a handle is

The table of handles is not the inverse of the table of windows. A handle belongs to
the client that registered a window under it last, as long as that client keeps every
window it had under the handle at that time; as soon as one of them goes, nobody has
the handle, whatever other windows are still recorded with it.
-/

namespace InputBridge

namespace Broker

variable {σ : Type} {S : DisplayServer σ} {b b' b'' : Broker} {c c' : ClientId}
  {id other : SeatId} {window : WindowId} {handle other' : Handle} {config : BrokerConfig}
  {steps : List Step}

/-! ## Changes that give the handle to nobody -/

/-- From `b` to `b'` nothing is registered under the handle. Windows recorded with it
may go, and then the handle goes too. -/
structure Trims (id : SeatId) (handle : Handle) (b b' : Broker) : Prop where
  windows : ∀ window c, b'.windows.get? (id, window) = some (c, handle) →
    b.windows.get? (id, window) = some (c, handle)
  handles : ∀ c, b'.handles.get? (id, handle) = some c ↔
    b.handles.get? (id, handle) = some c ∧
      ∀ window, b.windows.get? (id, window) = some (c, handle) →
        b'.windows.get? (id, window) = some (c, handle)

theorem Trims.of_eq (hwindows : b'.windows = b.windows) (hhandles : b'.handles = b.handles) :
    Trims id handle b b' where
  windows _ _ h := hwindows ▸ h
  handles c := by
    rw [hwindows, hhandles]
    exact ⟨fun h => ⟨h, fun _ hw => hw⟩, And.left⟩

theorem Trims.trans (h : Trims id handle b b') (h' : Trims id handle b' b'') :
    Trims id handle b b'' where
  windows window c hw := h.windows window c (h'.windows window c hw)
  handles c := by
    rw [h'.handles, h.handles]
    constructor
    · rintro ⟨⟨hc, kept⟩, kept'⟩
      exact ⟨hc, fun window hw => kept' window (kept window hw)⟩
    · rintro ⟨hc, kept⟩
      refine ⟨⟨hc, fun window hw => h'.windows window c (kept window hw)⟩, fun window hw => ?_⟩
      exact kept window (h.windows window c hw)

/-- The handle goes with any window that is forgotten, but nothing else is lost. -/
theorem trims_forgetWindow (b : Broker) (other : SeatId) (window : WindowId) :
    Trims id handle b (b.forgetWindow other window) where
  windows w c hw := by
    rw [windows_forgetWindow] at hw
    split at hw
    · cases hw
    · exact hw
  handles c := by
    rw [handles_forgetWindow]
    apply and_congr_right
    intro _
    constructor
    · intro hnot w hw
      rw [windows_forgetWindow, if_neg, hw]
      intro heq
      cases heq
      exact hnot ⟨rfl, hw⟩
    · -- the forgotten window is one that was to be kept
      rintro kept ⟨rfl, hw⟩
      have hkept := kept window hw
      rw [windows_forgetWindow, if_pos rfl] at hkept
      cases hkept

/-- A window that is recorded with another handle is forgotten first. -/
theorem trims_ownWindow (h : (other, other') ≠ (id, handle)) :
    Trims id handle b (b.ownWindow other window other' c) := by
  have forgotten : Trims id handle b (b.forgetWindow other window) :=
    trims_forgetWindow b other window
  -- the window that is recorded anew is under another handle then
  have same : ∀ w c', (b.ownWindow other window other' c).windows.get? (id, w) = some (c', handle) ↔
      (b.forgetWindow other window).windows.get? (id, w) = some (c', handle) := by
    intro w c'
    rw [windows_ownWindow, windows_forgetWindow]
    split
    · next heq =>
      cases heq
      constructor
      · intro hw
        cases hw
        exact absurd rfl h
      · intro hw
        cases hw
    · rfl
  refine ⟨fun w c' hw => forgotten.windows w c' ((same w c').mp hw), ?_⟩
  intro c'
  rw [handles_ownWindow_of_ne h, forgotten.handles]
  simp only [same]

theorem Move.trims (move : Move S b b') : Trims id handle b b' := by
  cases move with
  | greet | proceed | fail | leave | join | depart => exact .of_eq rfl rfl
  | forget window => exact trims_forgetWindow b _ window
  | stop => exact (trims_forgetWindow b _ _).trans (.of_eq rfl rfl)

theorem Withdrawal.trims (withdrawn : Withdrawal b b' c other window other') :
    Trims id handle b b' := by
  obtain ⟨-, seat, seat', -, -, -, -, -, rfl⟩ := withdrawn
  exact .of_eq rfl rfl

theorem Registration.trims (registered : Registration b b' c other window other')
    (h : (other, other') ≠ (id, handle)) : Trims id handle b b' := by
  obtain ⟨-, seat, seat', -, -, -, -, rfl⟩ := registered
  have set : Trims id handle b { b with seats := b.seats.set other seat' } := .of_eq rfl rfl
  exact set.trans (trims_ownWindow h)

/-! ## Runs -/

/-- The step grants some client a registration under the handle. -/
def Step.Assigns (s : Step) (id : SeatId) (handle : Handle) : Prop :=
  ∃ c window, s.Grants c id window handle

theorem Step.Possible.trims {s : Step} (possible : s.Possible S) (h : ¬s.Assigns id handle) :
    Trims id handle s.before s.after := by
  rcases possible.cases with ⟨moves, -⟩ | ⟨c, other, window, other', -, withdrawn⟩ |
    ⟨c, other, window, other', grants, registered⟩
  · exact moves.invariant (I := Trims id handle s.before) (.of_eq rfl rfl)
      fun _ _ trims move => trims.trans move.trims
  · exact withdrawn.trims
  · apply registered.trims
    intro heq
    apply h
    cases heq
    exact ⟨c, window, grants⟩

/-- Who is granted a registration has the handle, if only at first. -/
theorem Step.Possible.handles_of_grants {s : Step} (possible : s.Possible S)
    (h : s.Grants c id window handle) : s.after.handles.get? (id, handle) = some c := by
  rcases possible.cases with ⟨-, none⟩ | ⟨c', id', window', handle', withdraws, -⟩ |
    ⟨c', id', window', handle', grants, registered⟩
  · exact absurd h (none c id window handle)
  · exact absurd h (withdraws.not_grants)
  · obtain ⟨rfl, rfl, rfl, rfl⟩ := h.unique grants
    obtain ⟨-, seat, seat', -, -, -, -, hafter⟩ := registered
    rw [hafter]
    exact handles_ownWindow_self

theorem Run.trims {start : Broker} (run : Run S start steps b)
    (h : ∀ s ∈ steps, ¬s.Assigns id handle) : Trims id handle start b := by
  -- the handle is kept apart from `start` on, since trimming is transitive
  induction run with
  | nil => exact .of_eq rfl rfl
  | @snoc steps s run possible ih =>
    have earlier := ih fun s hs => h s (List.mem_append_left _ hs)
    exact earlier.trans (possible.trims (h s (by simp)))

/-- The last step of a run that assigns the handle, if there is any. -/
theorem exists_last_assigns (id : SeatId) (handle : Handle) (steps : List Step) :
    (∀ s ∈ steps, ¬s.Assigns id handle) ∨
      ∃ earlier s later, steps = earlier ++ s :: later ∧ s.Assigns id handle ∧
        ∀ s' ∈ later, ¬s'.Assigns id handle := by
  induction steps with
  | nil => exact .inl fun s hs => absurd hs List.not_mem_nil
  | cons s steps ih =>
    rcases ih with none | ⟨earlier, last, later, rfl, hlast, hlater⟩
    · by_cases hs : s.Assigns id handle
      · exact .inr ⟨[], s, steps, rfl, hs, none⟩
      · left
        intro s' hs'
        rcases List.mem_cons.mp hs' with rfl | hs'
        · exact hs
        · exact none s' hs'
    · -- whatever the first step does, there is a later one
      exact .inr ⟨s :: earlier, last, later, rfl, hlast, hlater⟩

/-- The last registration under the handle was the client's, and the windows that the
client had under it then are still its own. -/
def HoldsHandle (steps : List Step) (b : Broker) (id : SeatId) (handle : Handle)
    (c : ClientId) : Prop :=
  ∃ earlier s later window, steps = earlier ++ s :: later ∧ s.Grants c id window handle ∧
    (∀ s' ∈ later, ¬s'.Assigns id handle) ∧
    ∀ window', s.after.windows.get? (id, window') = some (c, handle) →
      b.windows.get? (id, window') = some (c, handle)

/-- Input under a handle is addressed to the client that holds it, and to nobody if
there is none. -/
theorem Run.handles_iff (run : Run S { config } steps b) :
    b.handles.get? (id, handle) = some c ↔ HoldsHandle steps b id handle c := by
  constructor
  · intro hc
    -- the last step that assigned the handle gave it to whoever has it now
    rcases exists_last_assigns id handle steps with
      none | ⟨earlier, s, later, rfl, ⟨c', window, grants⟩, hlater⟩
    · -- a run without any gives the handle to nobody
      obtain ⟨hstart, -⟩ := ((run.trims none).handles c).mp hc
      cases hstart
    · obtain ⟨-, possible, rest⟩ := run.split
      obtain ⟨hs, kept⟩ := ((rest.trims hlater).handles c).mp hc
      rw [possible.handles_of_grants grants] at hs
      cases hs
      exact ⟨earlier, s, later, window, rfl, grants, hlater, kept⟩
  · rintro ⟨earlier, s, later, window, rfl, grants, hlater, kept⟩
    obtain ⟨-, possible, rest⟩ := run.split
    exact ((rest.trims hlater).handles c).mpr ⟨possible.handles_of_grants grants, kept⟩

end Broker

end InputBridge
