-- SUMMARY: How shared seats go on, and that names are not given out twice.
import InputBridge.Proofs.SharedSeats

/-!
# Shared seats in the course of time

Names of seats are not given out twice. What a name stands for only goes on, or goes
away; a display that did not lead to a seat never comes to lead to it again.
-/

namespace InputBridge

namespace SharedSeats

variable {σ : Type} {S : DisplayServer σ} {p p' p'' : SharedSeats} {id other : SeatId}
  {seat seat' : Seat} {display : String}

/-- `p'` is `p` at a later time. -/
structure Later (p p' : SharedSeats) : Prop where
  nextId : p.nextId ≤ p'.nextId
  seats : ∀ id seat', id < p.nextId → p'.get? id = some seat' →
    ∃ seat, p.get? id = some seat ∧ seat.Continues seat'
  links : ∀ id display, id < p.nextId → p'.byDisplay.get? display = some id →
    p.byDisplay.get? display = some id

theorem Later.refl (p : SharedSeats) : p.Later p :=
  ⟨Nat.le_refl _, fun _ seat' _ h => ⟨seat', h, .refl seat'⟩, fun _ _ _ h => h⟩

theorem Later.trans (h : p.Later p') (h' : p'.Later p'') : p.Later p'' where
  nextId := Nat.le_trans h.nextId h'.nextId
  seats id seat'' hid hseat'' := by
    obtain ⟨seat', hseat', continues'⟩ :=
      h'.seats id seat'' (Nat.lt_of_lt_of_le hid h.nextId) hseat''
    obtain ⟨seat, hseat, continues⟩ := h.seats id seat' hid hseat'
    exact ⟨seat, hseat, continues.trans continues'⟩
  links id display hid hlink :=
    h.links id display hid (h'.links id display (Nat.lt_of_lt_of_le hid h.nextId) hlink)

/-! ## Operations -/

theorem set_later (hseat : p.get? id = some seat) (continues : seat.Continues seat') :
    p.Later (p.set id seat') where
  nextId := Nat.le_of_eq nextId_set.symm
  seats other new _ hnew := by
    rw [get?_set] at hnew
    -- the seat that was set is the old one at a later time, and the others are as before
    split at hnew
    · next heq =>
      subst heq
      rw [hseat] at hnew
      obtain rfl : seat' = new := Option.some.inj hnew
      exact ⟨seat, hseat, continues⟩
    · exact ⟨new, hnew, .refl new⟩
  links _ _ _ hlink := by rwa [byDisplay_set] at hlink

theorem unlink_later (p : SharedSeats) (id : SeatId) (seat : Seat) :
    p.Later (p.unlink id seat) where
  nextId := Nat.le_of_eq nextId_unlink.symm
  seats other new _ hnew := by
    rw [get?_unlink] at hnew
    exact ⟨new, hnew, .refl new⟩
  links _ _ _ hlink := (byDisplay_unlink.mp hlink).1

theorem markFailed_later (p : SharedSeats) (id : SeatId) : p.Later (p.markFailed id) := by
  cases hseat : p.get? id with
  | none =>
    rw [markFailed, hseat]
    exact .refl p
  | some seat =>
    rw [markFailed_eq hseat]
    exact (set_later hseat seat.fail_undisturbed.toContinues).trans (unlink_later _ id seat)

theorem take_later (h : (p.take S display).Yields (.ok id, p')) : p.Later p' := by
  rcases take_yields h with
    ⟨id', shared, ⟨-, hshared⟩, -, rfl⟩ | ⟨-, ⟨_, hr, -⟩ | ⟨seat, -, rfl, -⟩⟩
  · refine ⟨Nat.le_refl _, ?_, fun _ _ _ hlink => hlink⟩
    intro other new _ hnew
    rw [get?_retain hshared] at hnew
    exact ⟨new, hnew, .refl new⟩
  · cases hr
  · -- the name of the new seat was never given out before
    refine ⟨Nat.le_succ _, ?_, ?_⟩
    · intro other new hother hnew
      rw [get?_addSeat, if_neg (Nat.ne_of_gt hother)] at hnew
      exact ⟨new, hnew, .refl new⟩
    · intro other d hother hlink
      rw [addSeat, Assoc.get?_insert] at hlink
      split at hlink
      · cases hlink
        exact absurd hother (Nat.lt_irrefl _)
      · exact hlink

theorem release_later {last : Bool} (h : (p.release S id).Yields (last, p')) : p.Later p' where
  nextId := by
    rcases release_yields h with ⟨-, rfl⟩ | ⟨shared, -, ⟨-, rfl⟩ | ⟨-, rfl⟩⟩
    · exact Nat.le_refl _
    · exact Nat.le_refl _
    · exact (unlink_later { p with seats := p.seats.erase id } id shared.seat).nextId
  seats _ new _ hnew := ⟨new, get?_of_release h hnew, .refl new⟩
  links other d _ hlink := by
    rcases release_yields h with ⟨-, rfl⟩ | ⟨shared, -, ⟨-, rfl⟩ | ⟨-, rfl⟩⟩
    · exact hlink
    · exact hlink
    · exact (byDisplay_unlink.mp hlink).1

/-- Whatever is taken for a display, the display leads to it afterwards. -/
theorem byDisplay_take (h : (p.take S display).Yields (.ok id, p')) :
    p'.byDisplay.get? display = some id := by
  rcases take_yields h with
    ⟨id', shared, ⟨hlink, -⟩, hr, rfl⟩ | ⟨-, ⟨_, hr, -⟩ | ⟨seat, hr, rfl, -⟩⟩
  · cases hr
    exact hlink
  · cases hr
  · cases hr
    rw [addSeat, Assoc.get?_insert, if_pos rfl]

end SharedSeats

end InputBridge
