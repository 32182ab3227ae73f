-- SUMMARY: Operations on one seat leave the others and their links alone.
import InputBridge.Proofs.SharedSeats.Calls

/-!
# What one seat does not have to do with another

All seats are kept in one table, but an operation on a seat leaves the others alone: they are as
they were, as many have them, their displays lead to them, and nothing is asked on their links.
For the links this rests on every seat having one of its own.
-/

namespace InputBridge

/-- A request is made on the link, or the link is closed. -/
def Call.Concerns (link : Nat) (call : Call) : Prop := call.On link ∨ call = .closed link

theorem Call.On.not_concerns {link other : Nat} {call : Call} (h : call.On other)
    (hne : other ≠ link) : ¬call.Concerns link := by
  obtain ⟨r, answer, rfl⟩ := h
  rintro (⟨r', answer', heq⟩ | heq)
  · cases heq
    exact hne rfl
  · cases heq

theorem Call.closed_not_concerns {link other : Nat} (hne : other ≠ link) :
    ¬(Call.closed other).Concerns link := by
  rintro (⟨r, answer, heq⟩ | heq)
  · cases heq
  · cases heq
    exact hne rfl

theorem Call.opened_not_concerns {link own : Nat} {display : String} :
    ¬(Call.opened display own).Concerns link := by
  rintro (⟨r, answer, heq⟩ | heq) <;> cases heq

/-- The seat has gone on, and whatever it asked for it asked on its own link. -/
structure Seat.StaysOnLink (s : Seat) (l : List Call) (s' : Seat) (l' : List Call) : Prop where
  link : s'.link = s.link
  calls : Adds (Call.On s.link.id) l l'

theorem Seat.Queues.staysOnLink {s s' : Seat} {l l' : List Call} (h : s.Queues l s' l') :
    s.StaysOnLink l s' l' where
  link := h.link
  calls := h.calls.mono fun _ ⟨_, ⟨r, answer, heq, _⟩, _⟩ => ⟨r, answer, heq⟩

theorem Seat.Settles.staysOnLink {s s' : Seat} {l l' : List Call} (h : s.Settles l s' l') :
    s.StaysOnLink l s' l' where
  link := h.link
  calls := h.own.mono fun _ h => h.2

namespace SharedSeats

variable {σ : Type} {S : DisplayServer σ} {p p' p₁ : SharedSeats} {l l' m : List Call}
  {id other : SeatId} {seat seat' : Seat} {display : String}

/-- The seat `id`, if it is there, is as it was: as many have it, the same display leads to it, and
nothing was asked on its link. -/
structure Spares (id : SeatId) (p : SharedSeats) (l : List Call) (p' : SharedSeats)
    (l' : List Call) : Prop where
  seat : p'.get? id = p.get? id
  refs : p'.refs id = p.refs id
  linked : ∀ seat, p.get? id = some seat → ∀ display,
    p'.byDisplay.get? display = some id ↔ p.byDisplay.get? display = some id
  calls : ∀ seat, p.get? id = some seat →
    Adds (fun call => ¬call.Concerns seat.link.id) l l'

theorem Spares.refl (id : SeatId) (p : SharedSeats) (l : List Call) : Spares id p l p l :=
  ⟨rfl, rfl, fun _ _ _ => .rfl, fun _ _ => .refl l⟩

theorem Spares.trans (h : Spares id p l p₁ m) (h' : Spares id p₁ m p' l') :
    Spares id p l p' l' where
  seat := h'.seat.trans h.seat
  refs := h'.refs.trans h.refs
  linked seat hseat display :=
    (h'.linked seat (h.seat.trans hseat) display).trans (h.linked seat hseat display)
  calls seat hseat := (h.calls seat hseat).trans (h'.calls seat (h.seat.trans hseat))

/-! ## Operations on another seat -/

theorem set_spares (numbered : p.Numbered l) (hseat : p.get? other = some seat)
    (stays : seat.StaysOnLink l seat' l') (hne : other ≠ id) :
    Spares id p l (p.set other seat') l' where
  seat := by rw [get?_set, if_neg hne]
  refs := refs_set
  linked _ _ _ := by rw [byDisplay_set]
  calls spared hspared := by
    refine stays.calls.mono fun call hon => hon.not_concerns fun heq => hne ?_
    exact numbered.own other id seat spared hseat hspared heq

theorem set_numbered (numbered : p.Numbered l) (hseat : p.get? other = some seat)
    (stays : seat.StaysOnLink l seat' l') : (p.set other seat').Numbered l' := by
  refine numbered.of_links (fun i new hnew => ?_) (Nat.le_of_eq (congrArg List.length ?_))
  · rw [get?_set] at hnew
    split at hnew
    · next heq =>
      rw [← heq, hseat] at hnew
      cases hnew
      exact ⟨seat, heq ▸ hseat, stays.link⟩
    · exact ⟨new, hnew, rfl⟩
  · refine (stays.calls.openedLinks ?_).symm
    rintro display own ⟨r, answer, heq⟩
    cases heq

theorem byDisplay_unlink_of_ne (hne : other ≠ id) :
    (p.unlink other seat).byDisplay.get? display = some id ↔
      p.byDisplay.get? display = some id := by
  rw [byDisplay_unlink]
  exact and_iff_left fun h => hne h.2

theorem markFailed_spares (hne : other ≠ id) : Spares id p l (p.markFailed other) l := by
  cases hseat : p.get? other with
  | none =>
    rw [markFailed, hseat]
    exact .refl id p l
  | some seat =>
    rw [markFailed_eq hseat]
    refine ⟨?_, refs_unlink.trans refs_set, fun _ _ d => ?_, fun _ _ => .refl l⟩
    · rw [get?_unlink, get?_set, if_neg hne]
    · rw [byDisplay_unlink_of_ne hne, byDisplay_set]

theorem release_spares {last : Bool} (numbered : p.Numbered l)
    (h : (p.release S.recorded other).Leads l (last, p') l') (hne : other ≠ id) :
    Spares id p l p' l' := by
  rcases release_leads h with
    ⟨-, rfl, rfl⟩ | ⟨shared, hshared, ⟨-, rfl, rfl⟩ | ⟨-, rfl, rfl⟩⟩
  · exact .refl id _ _
  · exact ⟨get?_drop hshared, refs_drop.trans (if_neg hne), fun _ _ _ => .rfl, fun _ _ => .refl _⟩
  · have hseat : p.get? other = some shared.seat := by simp [get?, hshared]
    refine ⟨get?_close.trans (if_neg hne), refs_close.trans (if_neg hne),
      fun _ _ d => byDisplay_unlink_of_ne hne, fun spared hspared => .single _ ?_⟩
    exact Call.closed_not_concerns fun heq =>
      hne (numbered.own other id shared.seat spared hseat hspared heq)

/-! ## Taking another seat -/

/-- A seat is opened over a link that no seat has had before. -/
theorem connect_not_concerns {r : Except SeatError Seat}
    (h : (Seat.connect S.recorded display).Leads l r l') :
    Adds (fun call => ∀ link < (openedLinks l).length, ¬call.Concerns link) l l' := by
  rcases Seat.connect_calls h with ⟨e, rfl, rfl⟩ | ⟨own, new, m, hnew, sets, hrest⟩
  · exact .refl _
  · have apart : ∀ link < (openedLinks l).length, new.id ≠ link := by
      intro link hknown
      omega
    have opened : Adds (fun call => ∀ link < (openedLinks l).length, ¬call.Concerns link) l m :=
      (Adds.single l fun _ _ => Call.opened_not_concerns).trans
        (sets.adds.mono fun _ hcall link hknown => hcall.2.not_concerns (apart link hknown))
    rcases hrest with ⟨-, rfl⟩ | ⟨-, rfl⟩
    · exact opened.trans (.single m fun link hknown => Call.closed_not_concerns (apart link hknown))
    · exact opened

theorem openSeat_spares {r : Except SeatError SeatId} (numbered : p.Numbered l)
    (h : (take.openSeat S.recorded p display).Leads l (r, p') l') (hne : r ≠ .ok id)
    (unoffered : ∀ seat, p.get? id = some seat → p.byDisplay.get? display ≠ some id) :
    Spares id p l p' l' := by
  unfold take.openSeat at h
  obtain ⟨connected, m, hconnect, h⟩ := h.of_bind
  have calls (seat : Seat) (hseat : p.get? id = some seat) :
      Adds (fun call => ¬call.Concerns seat.link.id) l m :=
    (connect_not_concerns hconnect).mono fun _ hcall => hcall _ (numbered.known id seat hseat)
  cases connected with
  | error e =>
    obtain ⟨heq, rfl⟩ := h.of_pure
    cases heq
    exact ⟨rfl, rfl, fun _ _ _ => .rfl, calls⟩
  | ok new =>
    obtain ⟨heq, rfl⟩ := h.of_pure
    cases heq
    have hne : p.nextId ≠ id := fun heq => hne (congrArg Except.ok heq)
    refine ⟨?_, ?_, fun seat hseat d => ?_, calls⟩
    · exact get?_addSeat.trans (if_neg hne)
    · simp [refs, hne]
    · rw [Assoc.get?_insert]
      split
      · -- the display leads to the new seat now, and led to no other before
        next heq =>
        subst heq
        simp [hne, unoffered seat hseat]
      · rfl

theorem take_spares {r : Except SeatError SeatId} (numbered : p.Numbered l)
    (h : (p.take S.recorded display).Leads l (r, p') l') (hne : r ≠ .ok id) :
    Spares id p l p' l' := by
  unfold take at h
  split at h
  · next offered hlink =>
    split at h
    · next shared hshared =>
      obtain ⟨heq, rfl⟩ := h.of_pure
      cases heq
      have hne : id ≠ offered := fun heq => hne (congrArg Except.ok heq.symm)
      exact ⟨get?_retain hshared, (refs_retain hshared).trans (by simp [hne]),
        fun _ _ _ => .rfl, fun _ _ => .refl _⟩
    · next hnone =>
      refine openSeat_spares numbered h hne fun seat hseat hid => ?_
      -- a display that leads to a seat that is there would have offered it
      obtain rfl : offered = id := Option.some.inj (hlink.symm.trans hid)
      simp [get?, hnone] at hseat
  · next hlink => exact openSeat_spares numbered h hne fun _ _ hid => by simp [hlink] at hid

end SharedSeats

end InputBridge
