-- SUMMARY: Layouts and lock keys of shared seats stay while no event is handled.
import InputBridge.Proofs.Seat.Requests
import InputBridge.Proofs.SharedSeats.Later

/-!
# Shared seats while no event is handled

Without events no seat comes to other layouts or lock keys. The seats that are there
afterwards were there before, or have been set up since under a name of their own.
-/

namespace InputBridge

namespace SharedSeats

variable {σ : Type} {S : DisplayServer σ} {p p' p'' : SharedSeats} {id : SeatId}
  {seat seat' : Seat} {display : String}

/-- From `p` to `p'` no seat has handled an event. -/
structure Quiet (S : DisplayServer σ) (p p' : SharedSeats) : Prop where
  nextId : p.nextId ≤ p'.nextId
  seats : ∀ id seat', p'.get? id = some seat' → ∃ seat, seat.Rests seat' ∧
    (p.get? id = some seat ∨
      p.nextId ≤ id ∧ ∃ display, (Seat.connect S display).Yields (.ok seat))

theorem Quiet.refl (p : SharedSeats) : p.Quiet S p :=
  ⟨Nat.le_refl _, fun _ seat' h => ⟨seat', .refl seat', .inl h⟩⟩

theorem Quiet.trans (h : p.Quiet S p') (h' : p'.Quiet S p'') : p.Quiet S p'' where
  nextId := Nat.le_trans h.nextId h'.nextId
  seats id seat'' hseat'' := by
    obtain ⟨seat', rests', hseat' | ⟨hnew, connected⟩⟩ := h'.seats id seat'' hseat''
    · obtain ⟨seat, rests, hseat⟩ := h.seats id seat' hseat'
      exact ⟨seat, rests.trans rests', hseat⟩
    · exact ⟨seat', rests', .inr ⟨Nat.le_trans h.nextId hnew, connected⟩⟩

theorem set_quiet (hseat : p.get? id = some seat) (rests : seat.Rests seat') :
    p.Quiet S (p.set id seat') where
  nextId := Nat.le_of_eq nextId_set.symm
  seats other new hnew := by
    rw [get?_set] at hnew
    split at hnew
    · next heq =>
      subst heq
      rw [hseat] at hnew
      obtain rfl : seat' = new := Option.some.inj hnew
      exact ⟨seat, rests, .inl hseat⟩
    · exact ⟨new, .refl new, .inl hnew⟩

theorem markFailed_quiet (p : SharedSeats) (id : SeatId) : p.Quiet S (p.markFailed id) where
  nextId := (markFailed_later p id).nextId
  seats other new hnew := by
    rw [get?_markFailed] at hnew
    split at hnew
    · obtain ⟨seat, hseat, rfl⟩ := Option.map_eq_some_iff.mp hnew
      exact ⟨seat, seat.fail_undisturbed.rests, .inl hseat⟩
    · exact ⟨new, .refl new, .inl hnew⟩

/-- Whoever takes a seat has one that is there. -/
theorem take_quiet (h : (p.take S display).Yields (.ok id, p')) : p.Quiet S p' := by
  have later := take_later h
  -- the display leads to a seat that is there, or one is set up, or that fails
  rcases take_yields h with
    ⟨id', shared, ⟨-, hshared⟩, hr, rfl⟩ | ⟨-, ⟨_, hr, -⟩ | ⟨seat, hr, rfl, hconnect⟩⟩
  · cases hr
    refine ⟨later.nextId, fun other new hnew => ?_⟩
    rw [get?_retain hshared] at hnew
    exact ⟨new, .refl new, .inl hnew⟩
  · cases hr
  · cases hr
    refine ⟨later.nextId, fun other new hnew => ?_⟩
    rw [get?_addSeat] at hnew
    split at hnew
    · next heq =>
      cases hnew
      exact ⟨seat, .refl seat, .inr ⟨Nat.le_of_eq heq, display, hconnect⟩⟩
    · exact ⟨new, .refl new, .inl hnew⟩

theorem release_quiet {last : Bool} (h : (p.release S id).Yields (last, p')) : p.Quiet S p' where
  nextId := (release_later h).nextId
  seats _ new hnew := ⟨new, .refl new, .inl (get?_of_release h hnew)⟩

end SharedSeats

end InputBridge
