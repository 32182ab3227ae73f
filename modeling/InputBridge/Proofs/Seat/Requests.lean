-- SUMMARY: Which parts of the keyboard requests leave alone.
import InputBridge.Proofs.Seat.Registration

/-!
# What requests leave of the keyboard

Requests of desktops are about windows and the pointer. Layouts and lock keys of the seat
are none of their concern. Of the keyboard those about windows touch at most the focus, which
a window that is stopped loses, and those about the pointer nothing.
-/

namespace InputBridge

namespace Seat

variable {σ : Type} {S : DisplayServer σ} {s s' s'' : Seat} {window : WindowId} {handle : Handle}

/-- Link, layouts and lock keys are as they were. -/
structure Rests (s s' : Seat) : Prop where
  link : s'.link = s.link
  layouts : s'.layouts = s.layouts
  lockedModifiers : s'.keyboard.lockedModifiers = s.keyboard.lockedModifiers
  locks : s'.keyboard.locks = s.keyboard.locks

theorem Undisturbed.rests (h : s.Undisturbed s') : s.Rests s' :=
  ⟨h.link, h.layouts, by rw [h.keyboard], by rw [h.keyboard]⟩

theorem Rests.refl (s : Seat) : s.Rests s := ⟨rfl, rfl, rfl, rfl⟩

theorem Rests.trans (h : s.Rests s') (h' : s'.Rests s'') : s.Rests s'' :=
  ⟨h'.link.trans h.link, h'.layouts.trans h.layouts,
    h'.lockedModifiers.trans h.lockedModifiers, h'.locks.trans h.locks⟩

/-! ## Requests about windows -/

theorem startInput_keyboard {r : Except SeatError Unit}
    (h : (s.startInput S window handle).Yields (r, s')) :
    s'.keyboard = s.keyboard ∧ s'.layouts = s.layouts := by
  rcases startInput_yields h with ⟨_, -, rfl⟩ | ⟨-, _, -, ⟨-, rfl⟩ | ⟨_, -, rfl⟩⟩
  · exact ⟨rfl, rfl⟩
  · exact ⟨rfl, rfl⟩
  · exact ⟨rfl, rfl⟩

/-- A window that is stopped loses the focus. -/
theorem stopInput_keyboard {r : Option Handle} (h : (s.stopInput S window).Yields (r, s')) :
    s'.layouts = s.layouts ∧
      (s.windows.lookup? window = none ∧ s' = s ∨
        s'.keyboard = { s.keyboard with
          focus := if s.keyboard.focus = some window then none else s.keyboard.focus }) := by
  unfold stopInput at h
  have hfst : (s.windows.remove window).1 = s.windows.lookup? window := WindowTable.remove_fst
  split at h
  · next _ hremoved =>
    rw [hremoved] at hfst
    cases h.of_pure
    exact ⟨rfl, .inl ⟨hfst.symm, rfl⟩⟩
  · dsimp only at h
    -- a failed seat does not ask the server
    split at h
    · cases h.of_pure
      split <;> exact ⟨rfl, .inr rfl⟩
    · obtain ⟨-, -, h⟩ := h.of_bind
      cases h.of_pure
      split <;> exact ⟨rfl, .inr rfl⟩

theorem startInput_rests {r : Except SeatError Unit}
    (h : (s.startInput S window handle).Yields (r, s')) : s.Rests s' := by
  obtain ⟨hkeyboard, hlayouts⟩ := startInput_keyboard h
  exact ⟨(startInput_continues h).link, hlayouts, by rw [hkeyboard], by rw [hkeyboard]⟩

theorem stopInput_rests {r : Option Handle} (h : (s.stopInput S window).Yields (r, s')) :
    s.Rests s' := by
  obtain ⟨hlayouts, ⟨-, rfl⟩ | hkeyboard⟩ := stopInput_keyboard h
  · exact .refl _
  · exact ⟨(stopInput_yields h).1.link, hlayouts, by rw [hkeyboard], by rw [hkeyboard]⟩

end Seat

end InputBridge
