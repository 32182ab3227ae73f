-- SUMMARY: Shared seats stay in step with a count of those who have them.
import InputBridge.Proofs.Seat.Registration
import InputBridge.SharedSeats

/-!
# Shared seats count right

Seats that are taken and let go one time each stay in step with a count of those who
have them: a seat is there as long as somebody has it, its display leads to it as
long as it works, and a display leads to nothing but a seat of its own that is there.
-/

namespace InputBridge

namespace SharedSeats

variable {σ : Type} {S : DisplayServer σ} {p p' : SharedSeats} {id other : SeatId}
  {seat seat' : Seat} {display : String} {taken taken' : SeatId → Nat}

/-- The seats are in step with `taken`, which says how many have each of them. -/
structure Sound (p : SharedSeats) (taken : SeatId → Nat) : Prop where
  refs : ∀ id, p.refs id = taken id
  present : ∀ id, (p.get? id).isSome ↔ 1 ≤ taken id
  linked : ∀ display id, p.byDisplay.get? display = some id →
    ∃ seat, p.get? id = some seat ∧ seat.display = display
  live : ∀ id seat, p.get? id = some seat → seat.failed = false →
    p.byDisplay.get? seat.display = some id
  fresh : ∀ id, p.nextId ≤ id → p.get? id = none

theorem Sound.empty : ({} : SharedSeats).Sound fun _ => 0 where
  refs _ := rfl
  present _ := by simp [get?]
  linked _ _ h := by cases h
  live _ _ h := by cases h
  fresh _ _ := rfl

/-! ## Changing a seat in its place -/

theorem get?_set : (p.set id seat).get? other =
    if id = other then (p.get? other).map fun _ => seat else p.get? other := by
  unfold set
  split
  · next h =>
    split
    · next heq => simp [get?, ← heq, h]
    · rfl
  · next shared h =>
    by_cases heq : id = other
    · subst heq
      simp [get?, h]
    · simp [get?, heq]

theorem refs_set : (p.set id seat).refs other = p.refs other := by
  unfold set
  split
  · rfl
  · next shared h =>
    by_cases heq : id = other
    · subst heq
      simp [refs, h]
    · simp [refs, heq]

@[simp] theorem byDisplay_set : (p.set id seat).byDisplay = p.byDisplay := by
  unfold set
  split <;> rfl

@[simp] theorem nextId_set : (p.set id seat).nextId = p.nextId := by
  unfold set
  split <;> rfl

theorem Sound.set (h : p.Sound taken) (hseat : p.get? id = some seat)
    (continues : seat.Continues seat') : (p.set id seat').Sound taken where
  refs other := refs_set.trans (h.refs other)
  present other := by
    rw [get?_set, ← h.present other]
    split <;> simp
  linked display other hlink := by
    rw [byDisplay_set] at hlink
    obtain ⟨old, hold, hdisplay⟩ := h.linked display other hlink
    rw [get?_set, hold]
    split
    · -- the seat is of the same display as before
      next heq =>
      obtain rfl : seat = old := Option.some.inj (hseat.symm.trans (heq ▸ hold))
      exact ⟨seat', rfl, continues.display.trans hdisplay⟩
    · exact ⟨old, rfl, hdisplay⟩
  live other new hnew hlive := by
    rw [get?_set] at hnew
    rw [byDisplay_set]
    split at hnew
    · next heq =>
      subst heq
      rw [hseat] at hnew
      obtain rfl : seat' = new := Option.some.inj hnew
      -- it works now, so it has worked all the time
      have hold : seat.failed = false := by
        apply Bool.eq_false_iff.mpr
        intro hfailed
        simpa [hlive] using continues.failed hfailed
      rw [continues.display]
      exact h.live id seat hseat hold
    · exact h.live other new hnew hlive
  fresh other hother := by
    rw [nextId_set] at hother
    rw [get?_set, h.fresh other hother]
    split <;> rfl

/-! ## Unlinking and failing -/

@[simp] theorem get?_unlink : (p.unlink id seat).get? other = p.get? other := by
  unfold unlink
  split <;> rfl

@[simp] theorem refs_unlink : (p.unlink id seat).refs other = p.refs other := by
  unfold unlink
  split <;> rfl

@[simp] theorem nextId_unlink : (p.unlink id seat).nextId = p.nextId := by
  unfold unlink
  split <;> rfl

/-- Only the way from the seat's own display to the seat is cut. -/
theorem byDisplay_unlink : (p.unlink id seat).byDisplay.get? display = some other ↔
    p.byDisplay.get? display = some other ∧ ¬(seat.display = display ∧ id = other) := by
  unfold unlink
  split
  · next h =>
    rw [Assoc.get?_erase]
    by_cases hd : seat.display = display
    · subst hd
      simp [h]
    · simp [hd]
  · next h =>
    refine ⟨fun hlink => ⟨hlink, ?_⟩, And.left⟩
    rintro ⟨rfl, rfl⟩
    exact h hlink

theorem markFailed_eq (h : p.get? id = some seat) :
    p.markFailed id = (p.set id seat.fail).unlink id seat := by
  rw [markFailed, h]

theorem get?_markFailed : (p.markFailed id).get? other =
    if id = other then (p.get? other).map Seat.fail else p.get? other := by
  unfold markFailed
  split
  · next h =>
    split
    · next heq => rw [← heq, h]; rfl
    · rfl
  · next seat h =>
    rw [get?_unlink, get?_set]
    split
    · next heq => rw [← heq, h]; rfl
    · rfl

theorem Sound.markFailed (h : p.Sound taken) (id : SeatId) : (p.markFailed id).Sound taken := by
  cases hseat : p.get? id with
  | none => rwa [SharedSeats.markFailed, hseat]
  | some seat =>
    have hset : (p.set id seat.fail).Sound taken := h.set hseat seat.fail_undisturbed.toContinues
    rw [markFailed_eq hseat]
    constructor
    case refs =>
      intro other
      rw [refs_unlink]
      exact hset.refs other
    case present =>
      intro other
      rw [get?_unlink]
      exact hset.present other
    case linked =>
      intro display other hlink
      rw [get?_unlink]
      exact hset.linked display other (byDisplay_unlink.mp hlink).1
    case live =>
      intro other new hnew hlive
      rw [get?_unlink] at hnew
      refine byDisplay_unlink.mpr ⟨hset.live other new hnew hlive, ?_⟩
      -- the seat that was cut off has failed
      rintro ⟨-, rfl⟩
      rw [get?_set, if_pos rfl, hseat] at hnew
      obtain rfl : seat.fail = new := Option.some.inj hnew
      cases hlive
    case fresh =>
      intro other hother
      rw [nextId_unlink] at hother
      rw [get?_unlink]
      exact hset.fresh other hother

/-! ## Taking -/

/-- One more has the seat. -/
def retain (p : SharedSeats) (id : SeatId) (shared : Shared) : SharedSeats :=
  { p with seats := p.seats.insert id { shared with refs := shared.refs + 1 } }

/-- A new seat, which one has. -/
def addSeat (p : SharedSeats) (display : String) (seat : Seat) : SharedSeats where
  seats := p.seats.insert p.nextId { seat, refs := 1 }
  byDisplay := p.byDisplay.insert display p.nextId
  nextId := p.nextId + 1

/-- Whether the display leads to a seat that is there. -/
def Offers (p : SharedSeats) (display : String) (id : SeatId) (shared : Shared) : Prop :=
  p.byDisplay.get? display = some id ∧ p.seats.get? id = some shared

theorem openSeat_yields {r : Except SeatError SeatId}
    (h : (take.openSeat S p display).Yields (r, p')) :
    (∃ e, r = .error e ∧ p' = p) ∨
      ∃ seat, r = .ok p.nextId ∧ p' = p.addSeat display seat ∧
        (Seat.connect S display).Yields (.ok seat) := by
  unfold take.openSeat at h
  obtain ⟨connected, hconnect, h⟩ := h.of_bind
  cases connected with
  | error e =>
    cases h.of_pure
    exact .inl ⟨e, rfl, rfl⟩
  | ok seat =>
    cases h.of_pure
    exact .inr ⟨seat, rfl, rfl, hconnect⟩

/-- Whoever takes the seat of a display gets the one that is there, or a new one if
there is none, or none at all. -/
theorem take_yields {r : Except SeatError SeatId} (h : (p.take S display).Yields (r, p')) :
    (∃ id shared, p.Offers display id shared ∧ r = .ok id ∧ p' = p.retain id shared) ∨
      (∀ id shared, ¬p.Offers display id shared) ∧
        ((∃ e, r = .error e ∧ p' = p) ∨
          ∃ seat, r = .ok p.nextId ∧ p' = p.addSeat display seat ∧
            (Seat.connect S display).Yields (.ok seat)) := by
  unfold take at h
  split at h
  · next id hlink =>
    split at h
    · next shared hshared =>
      cases h.of_pure
      exact .inl ⟨id, shared, ⟨hlink, hshared⟩, rfl, rfl⟩
    · next hnone =>
      refine .inr ⟨?_, openSeat_yields h⟩
      rintro id' shared ⟨hlink', hshared⟩
      obtain rfl : id = id' := Option.some.inj (hlink.symm.trans hlink')
      rw [hnone] at hshared
      cases hshared
  · next hlink =>
    -- no seat is offered where the display leads nowhere
    refine .inr ⟨?_, openSeat_yields h⟩
    rintro id shared ⟨hlink', -⟩
    rw [hlink] at hlink'
    cases hlink'

theorem get?_retain {shared : Shared} (h : p.seats.get? id = some shared) :
    (p.retain id shared).get? other = p.get? other := by
  rw [get?, retain, Assoc.get?_insert]
  split
  · next heq => simp [get?, ← heq, h]
  · rfl

theorem refs_retain {shared : Shared} (h : p.seats.get? id = some shared) :
    (p.retain id shared).refs other = p.refs other + if other = id then 1 else 0 := by
  rw [refs, retain, Assoc.get?_insert]
  by_cases heq : id = other
  · subst heq
    simp [refs, h]
  · simp [refs, heq, Ne.symm heq]

theorem get?_addSeat : (p.addSeat display seat).get? other =
    if p.nextId = other then some seat else p.get? other := by
  rw [get?, addSeat, Assoc.get?_insert]
  split <;> rfl

theorem refs_addSeat (h : p.get? p.nextId = none) :
    (p.addSeat display seat).refs other = p.refs other + if other = p.nextId then 1 else 0 := by
  rw [refs, addSeat, Assoc.get?_insert]
  by_cases heq : p.nextId = other
  · subst heq
    have hnone : p.seats.get? p.nextId = none := Option.map_eq_none_iff.mp h
    simp [refs, hnone]
  · simp [refs, heq, Ne.symm heq]

theorem Sound.get?_of_offers (h : p.Sound taken) (hlink : p.byDisplay.get? display = some id) :
    ∃ shared, p.Offers display id shared := by
  obtain ⟨seat, hseat, -⟩ := h.linked display id hlink
  obtain ⟨shared, hshared, -⟩ := Option.map_eq_some_iff.mp hseat
  exact ⟨shared, hlink, hshared⟩

theorem Sound.retain (h : p.Sound taken) {shared : Shared} (hshared : p.seats.get? id = some shared)
    (htaken : ∀ i, taken' i = taken i + if i = id then 1 else 0) :
    (p.retain id shared).Sound taken' where
  refs other := by rw [refs_retain hshared, h.refs, htaken]
  present other := by
    have hid : 1 ≤ taken id := (h.present id).mp (by simp [get?, hshared])
    rw [get?_retain hshared, h.present, htaken]
    split
    · next heq => simp [heq, hid]
    · rfl
  linked d other hlink := by
    rw [get?_retain hshared]
    exact h.linked d other hlink
  live other new hnew hlive := by
    rw [get?_retain hshared] at hnew
    exact h.live other new hnew hlive
  fresh other hother := by
    rw [get?_retain hshared]
    exact h.fresh other hother

theorem Sound.addSeat (h : p.Sound taken) (hdisplay : seat.display = display)
    (hnone : ∀ id shared, ¬p.Offers display id shared)
    (htaken : ∀ i, taken' i = taken i + if i = p.nextId then 1 else 0) :
    (p.addSeat display seat).Sound taken' := by
  have hnew : p.get? p.nextId = none := h.fresh p.nextId (Nat.le_refl _)
  -- without an offer the display leads nowhere, since links lead to seats that are there
  have hunlinked : p.byDisplay.get? display = none := by
    apply Option.eq_none_iff_forall_ne_some.mpr
    intro id hlink
    obtain ⟨shared, hoffers⟩ := h.get?_of_offers hlink
    exact hnone id shared hoffers
  have hlinks : ∀ d, (p.addSeat display seat).byDisplay.get? d =
      if display = d then some p.nextId else p.byDisplay.get? d :=
    fun d => Assoc.get?_insert p.byDisplay display d p.nextId
  constructor
  case refs =>
    intro other
    rw [refs_addSeat hnew, h.refs, htaken]
  case present =>
    intro other
    have hpresent := h.present other
    rw [get?_addSeat, htaken]
    by_cases heq : p.nextId = other
    · simp [heq]
    · simpa [heq, Ne.symm heq] using hpresent
  case linked =>
    intro d other hlink
    rw [hlinks] at hlink
    rw [get?_addSeat]
    split at hlink
    · next hd =>
      exact ⟨seat, if_pos (Option.some.inj hlink), hdisplay.trans hd⟩
    · obtain ⟨old, hold, hd⟩ := h.linked d other hlink
      refine ⟨old, ?_, hd⟩
      rw [if_neg, hold]
      rintro rfl
      simp [hnew] at hold
  case live =>
    intro other new hseat hlive
    rw [get?_addSeat] at hseat
    rw [hlinks]
    split at hseat
    · next heq =>
      obtain rfl : seat = new := Option.some.inj hseat
      rw [if_pos hdisplay.symm, heq]
    · -- another seat of the display that works would have been offered
      have hlink := h.live other new hseat hlive
      rw [if_neg, hlink]
      intro hd
      rw [← hd, hunlinked] at hlink
      cases hlink
  case fresh =>
    intro other hother
    have hle : p.nextId + 1 ≤ other := hother
    rw [get?_addSeat, if_neg (Nat.ne_of_lt hle)]
    exact h.fresh other (Nat.le_of_succ_le hle)

/-- Whoever takes a seat finds it there. -/
theorem isSome_of_take (h : (p.take S display).Yields (.ok id, p')) : (p'.get? id).isSome := by
  rcases take_yields h with
    ⟨id', shared, ⟨-, hshared⟩, hr, rfl⟩ | ⟨-, ⟨_, hr, -⟩ | ⟨seat, hr, rfl, -⟩⟩
  · cases hr
    rw [get?_retain hshared, get?, hshared]
    rfl
  · cases hr
  · cases hr
    rw [get?_addSeat, if_pos rfl]
    rfl

theorem Sound.take (h : p.Sound taken) (htake : (p.take S display).Yields (.ok id, p'))
    (htaken : ∀ i, taken' i = taken i + if i = id then 1 else 0) : p'.Sound taken' := by
  rcases take_yields htake with
    ⟨id', shared, ⟨-, hshared⟩, hr, rfl⟩ | ⟨hnone, ⟨e, hr, -⟩ | ⟨seat, hr, rfl, hconnect⟩⟩
  · cases hr
    exact h.retain hshared htaken
  · cases hr
  · cases hr
    exact h.addSeat (Seat.connect_yields hconnect).1 hnone htaken

/-! ## Letting go -/

/-- One less has the seat. -/
def drop (p : SharedSeats) (id : SeatId) (shared : Shared) : SharedSeats :=
  { p with seats := p.seats.insert id { shared with refs := shared.refs - 1 } }

/-- The seat is there no more. -/
def close (p : SharedSeats) (id : SeatId) (shared : Shared) : SharedSeats :=
  { p with seats := p.seats.erase id }.unlink id shared.seat

/-- The seat is closed when the last one lets it go; otherwise there is one less who
has it. -/
theorem release_yields {last : Bool} (h : (p.release S id).Yields (last, p')) :
    (p.seats.get? id = none ∧ p' = p) ∨
      ∃ shared, p.seats.get? id = some shared ∧
        ((1 < shared.refs ∧ p' = p.drop id shared) ∨
          (shared.refs ≤ 1 ∧ p' = p.close id shared)) := by
  unfold release at h
  split at h
  · next hnone =>
    cases h.of_pure
    exact .inl ⟨hnone, rfl⟩
  · next shared hshared =>
    refine .inr ⟨shared, hshared, ?_⟩
    split at h
    · next hmore =>
      cases h.of_pure
      exact .inl ⟨hmore, rfl⟩
    · next hlast =>
      obtain ⟨-, -, h⟩ := h.of_bind
      cases h.of_pure
      exact .inr ⟨by omega, rfl⟩

theorem get?_drop {shared : Shared} (h : p.seats.get? id = some shared) :
    (p.drop id shared).get? other = p.get? other := by
  rw [get?, drop, Assoc.get?_insert]
  split
  · next heq => simp [get?, ← heq, h]
  · rfl

theorem refs_drop {shared : Shared} : (p.drop id shared).refs other =
    if id = other then shared.refs - 1 else p.refs other := by
  rw [refs, drop, Assoc.get?_insert]
  split <;> rfl

theorem get?_close {shared : Shared} :
    (p.close id shared).get? other = if id = other then none else p.get? other := by
  rw [close, get?_unlink, get?, Assoc.get?_erase]
  split <;> rfl

theorem refs_close {shared : Shared} :
    (p.close id shared).refs other = if id = other then 0 else p.refs other := by
  rw [close, refs_unlink, refs, Assoc.get?_erase]
  split <;> rfl

/-- Letting a seat go changes no seat that is still there. -/
theorem get?_of_release {last : Bool} (h : (p.release S id).Yields (last, p'))
    (hseat : p'.get? other = some seat) : p.get? other = some seat := by
  rcases release_yields h with ⟨-, rfl⟩ | ⟨shared, hshared, ⟨-, rfl⟩ | ⟨-, rfl⟩⟩
  · exact hseat
  · rwa [get?_drop hshared] at hseat
  · rw [get?_close] at hseat
    split at hseat
    · cases hseat
    · exact hseat

theorem Sound.drop (h : p.Sound taken) {shared : Shared} (hshared : p.seats.get? id = some shared)
    (hmore : 1 < shared.refs) (htaken : ∀ i, taken i = taken' i + if i = id then 1 else 0) :
    (p.drop id shared).Sound taken' := by
  have hrefs : shared.refs = taken id := by simpa [SharedSeats.refs, hshared] using h.refs id
  constructor
  case refs =>
    intro i
    have hi := htaken i
    rw [refs_drop]
    split
    · next heq =>
      subst heq
      rw [if_pos rfl] at hi
      omega
    · next heq =>
      rw [if_neg (Ne.symm heq)] at hi
      rw [h.refs, hi, Nat.add_zero]
  case present =>
    intro i
    have hi := htaken i
    rw [get?_drop hshared, h.present i]
    split at hi
    · next heq =>
      subst heq
      omega
    · rw [hi, Nat.add_zero]
  case linked =>
    intro d i hlink
    rw [get?_drop hshared]
    exact h.linked d i hlink
  case live =>
    intro i new hnew
    rw [get?_drop hshared] at hnew
    exact h.live i new hnew
  case fresh =>
    intro i hi
    rw [get?_drop hshared]
    exact h.fresh i hi

theorem Sound.close (h : p.Sound taken) {shared : Shared} (hshared : p.seats.get? id = some shared)
    (hlast : shared.refs ≤ 1) (htaken : ∀ i, taken i = taken' i + if i = id then 1 else 0) :
    (p.close id shared).Sound taken' := by
  have hrefs : shared.refs = taken id := by simpa [SharedSeats.refs, hshared] using h.refs id
  -- the last one has let it go
  have hid : taken' id = 0 := by
    have hlet := htaken id
    rw [if_pos rfl] at hlet
    omega
  have hother : ∀ i, id ≠ i → taken' i = taken i := fun i hi => by simp [htaken i, Ne.symm hi]
  constructor
  case refs =>
    intro i
    rw [refs_close]
    split
    · next heq => rw [← heq, hid]
    · next heq => rw [h.refs, hother i heq]
  case present =>
    intro i
    rw [get?_close]
    split
    · next heq => simp [← heq, hid]
    · next heq => rw [h.present i, hother i heq]
  case linked =>
    intro d i hlink
    obtain ⟨hlink, hcut⟩ := byDisplay_unlink.mp hlink
    obtain ⟨old, hold, hd⟩ := h.linked d i hlink
    rw [get?_close]
    refine ⟨old, ?_, hd⟩
    rw [if_neg, hold]
    rintro rfl
    obtain rfl : shared.seat = old := by simpa [SharedSeats.get?, hshared] using hold
    exact hcut ⟨hd, rfl⟩
  case live =>
    intro i new hnew hlive
    rw [get?_close] at hnew
    split at hnew
    · cases hnew
    · next hi => exact byDisplay_unlink.mpr ⟨h.live i new hnew hlive, fun hcut => hi hcut.2⟩
  case fresh =>
    intro i hi
    have hle : p.nextId ≤ i := by rwa [SharedSeats.close, nextId_unlink] at hi
    rw [get?_close, h.fresh i hle]
    split <;> rfl

theorem Sound.release {last : Bool} (h : p.Sound taken) (hr : (p.release S id).Yields (last, p'))
    (htaken : ∀ i, taken i = taken' i + if i = id then 1 else 0) : p'.Sound taken' := by
  rcases release_yields hr with ⟨hnone, -⟩ | ⟨shared, hshared, ⟨hmore, rfl⟩ | ⟨hlast, rfl⟩⟩
  · -- what somebody has is there, so there is no letting go of what is not
    have hid := htaken id
    rw [if_pos rfl] at hid
    have hpresent := (h.present id).mpr (by omega)
    simp [get?, hnone] at hpresent
  · exact h.drop hshared hmore htaken
  · exact h.close hshared hlast htaken

end SharedSeats

end InputBridge
