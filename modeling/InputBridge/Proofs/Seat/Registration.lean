-- SUMMARY: How a seat begins, and what registering and stopping a window come to.
import InputBridge.Proofs.Seat.Continuity
import InputBridge.Proofs.WindowTable

/-!
# Registering windows at a seat

How a seat is set up, and what registering and stopping a window can do to it. A
seat that has just been set up has no windows and has not failed.
-/

namespace InputBridge

namespace Seat

open Talk (Yields)

variable {σ : Type} {S : DisplayServer σ} {s s' : Seat} {window : WindowId} {handle : Handle}

/-- A registration is rejected at once, or is granted, or ends with the window not
being registered any more. -/
theorem startInput_yields {r : Except SeatError Unit}
    (h : (s.startInput S window handle).Yields (r, s')) :
    (∃ e, r = .error e ∧ s' = s) ∨
      s.failed = false ∧ ∃ windows, s.windows.insert? window handle = some windows ∧
        ((r = .ok () ∧ s' = { s with windows, flushPending := true }) ∨
          ∃ refusal, r = .error (.refused refusal) ∧
            s' = { s with windows := (windows.remove window).2 }) := by
  unfold startInput at h
  split at h
  · cases h.of_pure
    exact .inl ⟨_, rfl, rfl⟩
  · next hlive =>
    split at h
    · cases h.of_pure
      exact .inl ⟨_, rfl, rfl⟩
    · next windows hwindows =>
      refine .inr ⟨by simpa using hlive, windows, hwindows, ?_⟩
      obtain ⟨answer, -, h⟩ := h.of_bind
      cases answer with
      | ok _ =>
        cases h.of_pure
        exact .inl ⟨rfl, rfl⟩
      | error refusal =>
        cases h.of_pure
        exact .inr ⟨refusal, rfl, rfl⟩

theorem startInput_continues {r : Except SeatError Unit}
    (h : (s.startInput S window handle).Yields (r, s')) : s.Continues s' := by
  rcases startInput_yields h with ⟨_, -, rfl⟩ | ⟨-, _, -, ⟨-, rfl⟩ | ⟨_, -, rfl⟩⟩
  · exact .refl _
  · exact ⟨rfl, rfl, id⟩
  · exact ⟨rfl, rfl, id⟩

theorem stopInput_yields {r : Option Handle} (h : (s.stopInput S window).Yields (r, s')) :
    s.Continues s' ∧ r = s.windows.lookup? window ∧
      s'.windows = (s.windows.remove window).2 := by
  unfold stopInput at h
  have hfst : (s.windows.remove window).1 = s.windows.lookup? window := WindowTable.remove_fst
  split at h
  · next _ hremoved =>
    rw [hremoved] at hfst
    cases h.of_pure
    exact ⟨.refl _, hfst, (WindowTable.remove_of_lookup?_eq_none hfst.symm).symm⟩
  · next old windows hremoved =>
    rw [hremoved] at hfst ⊢
    dsimp only at h
    -- a failed seat does not ask the server, and any seat may lose the focus
    split at h
    · cases h.of_pure
      dsimp only
      split <;> exact ⟨⟨rfl, rfl, id⟩, hfst, rfl⟩
    · obtain ⟨-, -, h⟩ := h.of_bind
      cases h.of_pure
      dsimp only
      split <;> exact ⟨⟨rfl, rfl, id⟩, hfst, rfl⟩

/-! ## Setting up -/

theorem setUp_yields {display : String} {link : Link}
    (h : Yields (setUp S display link).run (.ok s)) :
    s.display = display ∧ s.windows = {} ∧ s.failed = false := by
  unfold setUp at h
  obtain ⟨-, -, h⟩ := Yields.of_bind_ok h
  obtain ⟨pointer, -, h⟩ := Yields.of_bind_ok h
  obtain ⟨device, -, h⟩ := Yields.of_bind_ok h
  obtain ⟨report, -, h⟩ := Yields.of_bind_ok h
  -- between the demands only the layouts are built
  obtain ⟨⟨built, s₁⟩, hbuilt, h⟩ := Yields.of_bind_ok h
  obtain ⟨r, hbuilt, hr⟩ := Yields.of_map (f := Except.ok) hbuilt
  cases hr
  obtain ⟨layouts, rfl⟩ := rebuildLayouts_yields hbuilt
  obtain ⟨-, -, h⟩ := Yields.of_bind_ok h
  obtain ⟨-, -, h⟩ := Yields.of_bind_ok h
  obtain ⟨-, -, h⟩ := Yields.of_bind_ok h
  cases h.of_pure
  exact ⟨rfl, rfl, rfl⟩

/-- A seat that is there was set up over a link. -/
theorem setUp_of_connect {display : String} (h : (connect S display).Yields (.ok s)) :
    ∃ link, Yields (setUp S display link).run (.ok s) := by
  unfold connect at h
  obtain ⟨opened, -, h⟩ := h.of_bind
  cases opened with
  | error reason => cases h.of_pure
  | ok link =>
    obtain ⟨seat, hseat, h⟩ := h.of_bind
    cases seat with
    | error e =>
      -- the link is closed again, and the error is the result
      obtain ⟨-, -, h⟩ := h.of_bind
      cases h.of_pure
    | ok seat =>
      cases h.of_pure
      exact ⟨link, hseat⟩

theorem connect_yields {display : String} (h : (connect S display).Yields (.ok s)) :
    s.display = display ∧ s.windows = {} ∧ s.failed = false := by
  obtain ⟨link, hseat⟩ := setUp_of_connect h
  exact setUp_yields hseat

end Seat

end InputBridge
