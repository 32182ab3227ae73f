-- SUMMARY: Windows and handles belong to clients that are attached to the seat.
import InputBridge.Proofs.Broker.Attachment

/-!
# Owners are attached

A window is recorded for a client only as long as the client is attached to the window's
seat, and a handle belongs to a client only as long as a window is recorded for this
client under the handle. So nothing is ever addressed to a client that has left.
-/

namespace InputBridge

namespace Broker

variable {σ : Type} {S : DisplayServer σ} {b b' : Broker} {c : ClientId} {id : SeatId}
  {window : WindowId} {handle : Handle}

/-- Who owns a window or has a handle is attached to the seat, and has a window under
the handle. -/
structure Owned (b : Broker) : Prop where
  windows : ∀ id window c handle, b.windows.get? (id, window) = some (c, handle) →
    b.seatOf c = some id
  handles : ∀ id handle c, b.handles.get? (id, handle) = some c →
    ∃ window, b.windows.get? (id, window) = some (c, handle)

theorem Owned.seatOf_of_handles (h : b.Owned) (hhandle : b.handles.get? (id, handle) = some c) :
    b.seatOf c = some id := by
  obtain ⟨window, hwindow⟩ := h.handles id handle c hhandle
  exact h.windows id window c handle hwindow

theorem Owned.ne_of_seatOf_eq_none (h : b.Owned) (hc : b.seatOf c = none) :
    b.windows.get? (id, window) ≠ some (c, handle) := by
  intro hsome
  rw [h.windows id window c handle hsome] at hc
  cases hc

/-! ## Records change -/

theorem Owned.empty (config : BrokerConfig) : Owned { config } where
  windows _ _ _ _ h := by cases h
  handles _ _ _ h := by cases h

/-- What becomes of seats is of no concern, and of clients only if they own windows. -/
theorem Owned.congr (h : b.Owned) (hwindows : b'.windows = b.windows)
    (hhandles : b'.handles = b.handles)
    (hclients : ∀ c id window handle, b.windows.get? (id, window) = some (c, handle) →
      b'.seatOf c = b.seatOf c) : b'.Owned where
  windows id window c handle hsome := by
    rw [hwindows] at hsome
    rw [hclients c id window handle hsome]
    exact h.windows id window c handle hsome
  handles id handle c hsome := by
    rw [hhandles] at hsome
    rw [hwindows]
    exact h.handles id handle c hsome

theorem seatOf_forgetWindow : (b.forgetWindow id window).seatOf c = b.seatOf c := by
  rw [seatOf, clients_forgetWindow, seatOf]

theorem Owned.forgetWindow (h : b.Owned) (id : SeatId) (window : WindowId) :
    (b.forgetWindow id window).Owned where
  windows other w c handle hsome := by
    rw [windows_forgetWindow] at hsome
    rw [seatOf_forgetWindow]
    split at hsome
    · cases hsome
    · exact h.windows other w c handle hsome
  handles other handle c hsome := by
    obtain ⟨hold, hkept⟩ := handles_forgetWindow.mp hsome
    obtain ⟨w, hw⟩ := h.handles other handle c hold
    -- the window that gave the handle is not the one that is forgotten
    refine ⟨w, ?_⟩
    rw [windows_forgetWindow, if_neg, hw]
    intro heq
    cases heq
    exact hkept ⟨rfl, hw⟩

theorem Owned.ownWindow (h : b.Owned) (hc : b.seatOf c = some id) (window : WindowId)
    (handle : Handle) : (b.ownWindow id window handle c).Owned where
  windows other w c' handle' hsome := by
    have hclients : (b.ownWindow id window handle c).seatOf c' = b.seatOf c' := by
      rw [seatOf, clients_ownWindow, seatOf]
    rw [hclients]
    rw [windows_ownWindow] at hsome
    split at hsome
    · next heq =>
      cases heq
      cases hsome
      exact hc
    · exact h.windows other w c' handle' hsome
  handles other handle' c' hsome := by
    by_cases hkey : (id, handle) = (other, handle')
    · cases hkey
      rw [handles_ownWindow_self] at hsome
      cases hsome
      exact ⟨window, by rw [windows_ownWindow, if_pos rfl]⟩
    · rw [handles_ownWindow_of_ne hkey] at hsome
      -- the window under the other handle is not the one that is recorded now
      obtain ⟨w, hw⟩ := (h.forgetWindow id window).handles other handle' c' hsome
      rw [windows_forgetWindow] at hw
      split at hw
      · cases hw
      · next hne => exact ⟨w, by rw [windows_ownWindow, if_neg hne, hw]⟩

/-! ## Steps -/

theorem Owned.move (h : b.Owned) (move : Move S b b') : b'.Owned := by
  cases move with
  | greet hnew =>
    refine h.congr rfl rfl fun c' id window handle hsome => ?_
    rw [seatOf_insert]
    split
    · next heq => rw [← heq, seatOf, hnew]; rfl
    · rfl
  | proceed | fail => exact h.congr rfl rfl fun _ _ _ _ _ => rfl
  | @forget id window hgone => exact h.forgetWindow id window
  | @stop id seat seat' window =>
    exact (h.forgetWindow id window).congr rfl rfl fun _ _ _ _ _ => rfl
  | @leave c id last seats hc hnone =>
    -- whoever leaves owns nothing any more, neither here nor at another seat
    refine h.congr rfl rfl fun c' id' window handle hsome => ?_
    rw [seatOf_insert, if_neg]
    · rfl
    · rintro rfl
      have hid := h.windows id' window c handle hsome
      rw [hc] at hid
      cases hid
      exact hnone window handle hsome
  | @join c display id seats hc =>
    refine h.congr rfl rfl fun c' id' window handle hsome => ?_
    rw [seatOf_insert, if_neg]
    · rfl
    · rintro rfl
      exact h.ne_of_seatOf_eq_none hc hsome
  | @depart c hc =>
    refine h.congr rfl rfl fun c' id window handle hsome => ?_
    rw [seatOf, Assoc.get?_erase, if_neg]
    · rfl
    · rintro rfl
      exact h.ne_of_seatOf_eq_none hc hsome

theorem Reachable.owned (reachable : Reachable S b) : b.Owned := by
  refine reachable.of_moves .empty (fun _ _ h move => h.move move) ?_ ?_
  · rintro b b' c id window handle h ⟨-, seat, seat', -, -, -, -, -, rfl⟩
    exact h.congr rfl rfl fun _ _ _ _ _ => rfl
  · rintro b b' c id window handle h ⟨hc, seat, seat', -, -, -, -, rfl⟩
    have hset : Owned { b with seats := b.seats.set id seat' } :=
      h.congr rfl rfl fun _ _ _ _ _ => rfl
    exact hset.ownWindow hc window handle

end Broker

end InputBridge
