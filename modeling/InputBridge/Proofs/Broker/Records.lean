-- SUMMARY: Lookups in the broker's records after windows are recorded and forgotten.
import InputBridge.Broker.State
import InputBridge.Proofs.Assoc

/-!
# The broker's records

What recording and forgetting a window does to the two tables that say whose a
window is and whose a handle is. The second table is not the inverse of the first:
a handle is in it once, however many windows have been registered under it.
-/

namespace InputBridge

namespace Broker

variable {b : Broker} {c owner : ClientId} {id other : SeatId} {window : WindowId}
  {handle handle' : Handle} {key : SeatId × WindowId}

/-! ## Forgetting -/

@[simp] theorem seats_forgetWindow : (b.forgetWindow id window).seats = b.seats := by
  unfold forgetWindow
  split <;> rfl

@[simp] theorem clients_forgetWindow : (b.forgetWindow id window).clients = b.clients := by
  unfold forgetWindow
  split <;> rfl

theorem config_forgetWindow : (b.forgetWindow id window).config = b.config := by
  unfold forgetWindow
  split <;> rfl

theorem forgetWindow_withClients (clients : Assoc ClientId (Option SeatId)) :
    { b with clients }.forgetWindow id window = { b.forgetWindow id window with clients } := by
  unfold forgetWindow
  dsimp only
  split <;> rfl

theorem windows_forgetWindow : (b.forgetWindow id window).windows.get? key =
    if (id, window) = key then none else b.windows.get? key := by
  unfold forgetWindow
  split
  · next hnone =>
    split
    · next heq => rw [← heq, hnone]
    · rfl
  · exact Assoc.get?_erase b.windows (id, window) key

/-- Of the handles only the one that the window was recorded with is forgotten, if its
owner still has it. -/
theorem handles_forgetWindow : (b.forgetWindow id window).handles.get? (other, handle) = some c ↔
    b.handles.get? (other, handle) = some c ∧
      ¬(id = other ∧ b.windows.get? (id, window) = some (c, handle)) := by
  unfold forgetWindow
  split
  -- a window that nobody has recorded takes nothing with it
  · next hnone => simp [hnone]
  · next owner handle' hsome =>
    dsimp only
    rw [hsome]
    split
    · -- the handle belongs to the owner of the window, and goes
      next howner =>
      rw [Assoc.get?_erase]
      by_cases hkey : (id, handle') = (other, handle)
      · cases hkey
        simp [howner]
      · have hne : ¬(id = other ∧ some (owner, handle') = some (c, handle)) := by
          rintro ⟨rfl, heq⟩
          cases heq
          exact hkey rfl
        rw [if_neg hkey]
        exact ⟨fun h => ⟨h, hne⟩, And.left⟩
    · -- the handle belongs to somebody else by now, and stays
      next howner =>
      refine ⟨fun h => ⟨h, ?_⟩, And.left⟩
      rintro ⟨rfl, heq⟩
      cases heq
      exact howner h

/-! ## Recording -/

@[simp] theorem seats_ownWindow : (b.ownWindow id window handle c).seats = b.seats :=
  seats_forgetWindow

@[simp] theorem clients_ownWindow : (b.ownWindow id window handle c).clients = b.clients :=
  clients_forgetWindow

theorem windows_ownWindow : (b.ownWindow id window handle c).windows.get? key =
    if (id, window) = key then some (c, handle) else b.windows.get? key := by
  unfold ownWindow
  rw [Assoc.get?_insert]
  split
  · rfl
  · next hne => rw [windows_forgetWindow, if_neg hne]

theorem handles_ownWindow_self :
    (b.ownWindow id window handle c).handles.get? (id, handle) = some c := by
  unfold ownWindow
  rw [Assoc.get?_insert, if_pos rfl]

theorem handles_ownWindow_of_ne (h : (id, handle) ≠ (other, handle')) :
    (b.ownWindow id window handle c).handles.get? (other, handle') =
      (b.forgetWindow id window).handles.get? (other, handle') := by
  unfold ownWindow
  rw [Assoc.get?_insert, if_neg h]

/-! ## Ordered lists -/

section Ordered

variable {α : Type} [LE α] [DecidableLE α]

theorem insertOrdered_perm (x : α) (xs : List α) : (insertOrdered x xs).Perm (x :: xs) := by
  induction xs with
  | nil => exact .refl _
  | cons y rest ih =>
    unfold insertOrdered
    split
    · exact .refl _
    · exact (ih.cons y).trans (.swap x y rest)

theorem ordered_perm (xs : List α) : (xs.foldr insertOrdered []).Perm xs := by
  induction xs with
  | nil => exact .refl _
  | cons x rest ih => exact (insertOrdered_perm x _).trans (ih.cons x)

end Ordered

/-- Every window that is recorded for a client is among its windows. -/
theorem mem_windowsOf (h : b.windows.get? (id, window) = some (c, handle)) :
    window ∈ b.windowsOf id c := by
  refine (ordered_perm _).mem_iff.mpr (List.mem_filterMap.mpr ?_)
  exact ⟨((id, window), (c, handle)), Assoc.mem_of_get? h, by simp⟩

end Broker

end InputBridge
