-- SUMMARY: The courses of shared seats with the record of their calls.
import InputBridge.Proofs.Seat.Calls
import InputBridge.Proofs.SharedSeats

/-!
# What is asked for shared seats

Seats are opened over new links, asked for things, and let go. Each has a link of its own, so
what is asked on a link is asked for one seat only, and a link whose seat has failed is never
asked for anything again.
-/

namespace InputBridge

namespace SharedSeats

variable {σ : Type} {S : DisplayServer σ} {p p' p₁ : SharedSeats} {l l' m : List Call}
  {id : SeatId} {seat seat' : Seat} {display : String} {link : Nat}

/-- What becomes of the seats and the record together. -/
inductive Talks : SharedSeats → List Call → SharedSeats → List Call → Prop where
  | trans {p p₁ p' : SharedSeats} {l m l' : List Call} (h : Talks p l p₁ m)
      (h' : Talks p₁ m p' l') : Talks p l p' l'
  /-- Seats fail or are let go. -/
  | lessens {p p' : SharedSeats} {l l' : List Call}
      (hseats : ∀ id seat', p'.get? id = some seat' →
        ∃ seat, p.get? id = some seat ∧ (seat' = seat ∨ seat' = seat.fail))
      (hcalls : Adds (fun call => ∃ link, call = .closed link) l l') : Talks p l p' l'
  /-- A seat does something. -/
  | settles {p p' : SharedSeats} {l l' : List Call} {id : SeatId} {seat seat' : Seat}
      (hseat : p.get? id = some seat) (h : seat.Settles l seat' l')
      (hseats : ∀ other, p'.get? other = if id = other then some seat' else p.get? other) :
      Talks p l p' l'
  /-- A seat cannot be set up. -/
  | givesUp {p : SharedSeats} {l m : List Call} {display : String} {own : Nat} {link : Link}
      {e : SeatError} (hlink : link.id = (openedLinks l).length)
      (h : Seat.SetsUp link (l ++ [.opened display own]) (.error e) m) :
      Talks p l p (m ++ [.closed link.id])
  /-- A new seat is there. -/
  | enters {p p' : SharedSeats} {l l' : List Call} {display : String} {own : Nat} {link : Link}
      {id : SeatId} {seat : Seat} (hlink : link.id = (openedLinks l).length)
      (h : Seat.SetsUp link (l ++ [.opened display own]) (.ok seat) l')
      (hseats : ∀ other, p'.get? other = if id = other then some seat else p.get? other) :
      Talks p l p' l'

theorem Talks.refl (p : SharedSeats) (l : List Call) : Talks p l p l :=
  .lessens (fun _ seat h => ⟨seat, h, .inl rfl⟩) (.refl l)

/-! ## Operations -/

theorem markFailed_talks (p : SharedSeats) (id : SeatId) (l : List Call) :
    Talks p l (p.markFailed id) l := by
  refine .lessens (fun other seat' hseat => ?_) (.refl l)
  rw [get?_markFailed] at hseat
  split at hseat
  · obtain ⟨seat, hold, rfl⟩ := Option.map_eq_some_iff.mp hseat
    exact ⟨seat, hold, .inr rfl⟩
  · exact ⟨seat', hseat, .inl rfl⟩

/-- Nothing is asked of a seat that is let go, and it is closed by the last one to do so. -/
theorem release_leads {last : Bool} (h : (p.release S.recorded id).Leads l (last, p') l') :
    p.seats.get? id = none ∧ p' = p ∧ l' = l ∨
      ∃ shared, p.seats.get? id = some shared ∧
        (1 < shared.refs ∧ p' = p.drop id shared ∧ l' = l ∨
          shared.refs ≤ 1 ∧ p' = p.close id shared ∧ l' = l ++ [.closed shared.seat.link.id]) := by
  unfold release at h
  split at h
  · next hnone =>
    obtain ⟨heq, rfl⟩ := h.of_pure
    cases heq
    exact .inl ⟨hnone, rfl, rfl⟩
  · next shared hshared =>
    refine .inr ⟨shared, hshared, ?_⟩
    split at h
    · next hmore =>
      obtain ⟨heq, rfl⟩ := h.of_pure
      cases heq
      exact .inl ⟨hmore, rfl, rfl⟩
    · next hlast =>
      obtain ⟨u, m, hclose, h⟩ := h.of_bind
      obtain rfl := hclose.of_disconnect
      obtain ⟨heq, rfl⟩ := h.of_pure
      cases heq
      exact .inr ⟨by omega, rfl, rfl⟩

theorem release_talks {last : Bool} (h : (p.release S.recorded id).Leads l (last, p') l') :
    Talks p l p' l' := by
  refine .lessens (fun other seat hseat => ⟨seat, get?_of_release h.yields hseat, .inl rfl⟩) ?_
  rcases release_leads h with ⟨-, -, rfl⟩ | ⟨shared, -, ⟨-, -, rfl⟩ | ⟨-, -, rfl⟩⟩
  · exact .refl _
  · exact .refl _
  · exact .single _ ⟨_, rfl⟩

theorem openSeat_talks {r : Except SeatError SeatId}
    (h : (take.openSeat S.recorded p display).Leads l (r, p') l') : Talks p l p' l' := by
  unfold take.openSeat at h
  obtain ⟨connected, m, hconnect, h⟩ := h.of_bind
  cases connected with
  | error e =>
    obtain ⟨heq, rfl⟩ := h.of_pure
    cases heq
    rcases Seat.connect_calls hconnect with
      ⟨-, -, rfl⟩ | ⟨own, link, m, hlink, sets, ⟨-, rfl⟩ | ⟨⟨seat, hseat⟩, -⟩⟩
    · exact .refl p _
    · exact .givesUp hlink sets
    · cases hseat
  | ok seat =>
    obtain ⟨heq, rfl⟩ := h.of_pure
    cases heq
    rcases Seat.connect_calls hconnect with
      ⟨e, he, -⟩ | ⟨own, link, m, hlink, sets, ⟨⟨e, he⟩, -⟩ | ⟨-, rfl⟩⟩
    · cases he
    · cases he
    · have hseats (other : SeatId) : (p.addSeat display seat).get? other =
          if p.nextId = other then some seat else p.get? other := get?_addSeat
      exact .enters hlink sets hseats

theorem take_talks {r : Except SeatError SeatId}
    (h : (p.take S.recorded display).Leads l (r, p') l') : Talks p l p' l' := by
  unfold take at h
  split at h
  · split at h
    · next shared hshared =>
      obtain ⟨heq, rfl⟩ := h.of_pure
      cases heq
      refine .lessens (fun other seat hseat => ⟨seat, ?_, .inl rfl⟩) (.refl _)
      rw [← hseat]
      exact (get?_retain hshared).symm
    · exact openSeat_talks h
  · exact openSeat_talks h

/-- A seat that cannot be opened changes nothing but the record. -/
theorem take_refused {e : SeatError} (h : (p.take S.recorded display).Leads l (.error e, p') l') :
    p' = p ∧ (Seat.connect S.recorded display).Leads l (.error e) l' := by
  have opening {p₁ : SharedSeats} {m : List Call}
      (h : (take.openSeat S.recorded p display).Leads l (.error e, p₁) m) :
      p₁ = p ∧ (Seat.connect S.recorded display).Leads l (.error e) m := by
    unfold take.openSeat at h
    obtain ⟨connected, m', hconnect, hend⟩ := h.of_bind
    cases connected with
    | error e' =>
      obtain ⟨heq, rfl⟩ := hend.of_pure
      cases heq
      exact ⟨rfl, hconnect⟩
    | ok seat =>
      obtain ⟨heq, -⟩ := hend.of_pure
      cases heq
  unfold take at h
  split at h
  · split at h
    · obtain ⟨heq, -⟩ := h.of_pure
      cases heq
    · exact opening h
  · exact opening h

/-! ## Flushes -/

/-- No seat that works is left with something that waits for a flush. -/
def Settled (p : SharedSeats) : Prop :=
  ∀ id seat, p.get? id = some seat → seat.failed = false → seat.flushPending = false

theorem Talks.settled (h : Talks p l p' l') (settled : p.Settled) : p'.Settled := by
  induction h with
  | trans _ _ ih ih' => exact ih' (ih settled)
  | lessens hseats =>
    intro id seat' hseat' hlive
    obtain ⟨seat, hseat, rfl | rfl⟩ := hseats id seat' hseat'
    · exact settled id seat' hseat hlive
    · cases hlive
  | @settles _ _ _ _ id seat seat' hseat h hseats =>
    intro other new hnew hlive
    rw [hseats] at hnew
    split at hnew
    · cases hnew
      exact h.settled hlive
    · exact settled other new hnew hlive
  | givesUp => exact settled
  | @enters _ _ _ _ display own link id seat hlink h hseats =>
    intro other new hnew hlive
    rw [hseats] at hnew
    split at hnew
    · cases hnew
      exact h.seat_eq.2.2
    · exact settled other new hnew hlive

theorem Talks.flushed (h : Talks p l p' l') : ∃ calls, l' = l ++ calls ∧ Flushed calls := by
  -- what does not wait needs no flush
  have quiet : ∀ {l l' : List Call}, Adds (fun call => call.waits = false) l l' →
      ∃ calls, l' = l ++ calls ∧ Flushed calls := by
    rintro l _ ⟨calls, rfl, hcalls⟩
    exact ⟨calls, rfl, .of_none fun link r a hcall => hcalls _ hcall⟩
  have setUp : ∀ {l m : List Call} {display : String} {own : Nat} {link : Link}
      {r : Except SeatError Seat}, Seat.SetsUp link (l ++ [.opened display own]) r m →
      Adds (fun call => call.waits = false) l m := fun h =>
    (Adds.single (P := fun call => call.waits = false) _ rfl).trans
      (h.adds.mono fun _ hcall => hcall.1)
  induction h with
  | trans _ _ ih ih' =>
    obtain ⟨calls, rfl, hcalls⟩ := ih
    obtain ⟨more, rfl, hmore⟩ := ih'
    exact ⟨calls ++ more, List.append_assoc .., hcalls.append hmore⟩
  | lessens _ hcalls =>
    refine quiet (hcalls.mono ?_)
    rintro call ⟨link, rfl⟩
    rfl
  | settles _ h => exact h.flushed
  | givesUp _ h => exact quiet ((setUp h).trans (.single _ rfl))
  | enters _ h => exact quiet (setUp h)

/-! ## Links -/

/-- Every seat has a link of its own. -/
structure Numbered (p : SharedSeats) (l : List Call) : Prop where
  known : ∀ id seat, p.get? id = some seat → seat.link.id < (openedLinks l).length
  own : ∀ id id' seat seat', p.get? id = some seat → p.get? id' = some seat' →
    seat.link.id = seat'.link.id → id = id'

theorem Numbered.empty : Numbered {} [] where
  known _ _ h := by cases h
  own _ _ _ _ h := by cases h

theorem openedLinks_setsUp {own : Nat} {link : Link} {r : Except SeatError Seat}
    (h : Seat.SetsUp link (l ++ [.opened display own]) r l') :
    openedLinks l' = openedLinks l ++ [own] := by
  rw [h.adds.openedLinks, openedLinks_append]
  · rfl
  · rintro display own ⟨-, r, answer, heq⟩
    cases heq

theorem Talks.openedLinks_le (h : Talks p l p' l') :
    (openedLinks l).length ≤ (openedLinks l').length := by
  induction h with
  | trans _ _ ih ih' => exact Nat.le_trans ih ih'
  | lessens _ hcalls =>
    refine Nat.le_of_eq (congrArg List.length (hcalls.openedLinks ?_)).symm
    rintro display own ⟨link, heq⟩
    cases heq
  | settles _ h =>
    refine Nat.le_of_eq (congrArg List.length (h.own.openedLinks ?_)).symm
    rintro display own ⟨-, r, answer, heq⟩
    cases heq
  | givesUp _ h =>
    rw [openedLinks_append, openedLinks_setsUp h, List.length_append, List.length_append]
    omega
  | enters _ h =>
    rw [openedLinks_setsUp h, List.length_append]
    exact Nat.le_add_right ..

/-- What becomes of a seat without its link being changed changes no numbers. -/
theorem Numbered.of_links (h : Numbered p l) (hlinks : ∀ id seat', p'.get? id = some seat' →
    ∃ seat, p.get? id = some seat ∧ seat'.link = seat.link)
    (hle : (openedLinks l).length ≤ (openedLinks l').length) : Numbered p' l' where
  known id seat' hseat' := by
    obtain ⟨seat, hseat, hlink⟩ := hlinks id seat' hseat'
    rw [hlink]
    exact Nat.lt_of_lt_of_le (h.known id seat hseat) hle
  own id₁ id₂ seat₁' seat₂' hseat₁' hseat₂' heq := by
    obtain ⟨seat₁, hseat₁, hlink₁⟩ := hlinks id₁ seat₁' hseat₁'
    obtain ⟨seat₂, hseat₂, hlink₂⟩ := hlinks id₂ seat₂' hseat₂'
    rw [hlink₁, hlink₂] at heq
    exact h.own id₁ id₂ seat₁ seat₂ hseat₁ hseat₂ heq

theorem Talks.numbered (h : Talks p l p' l') (numbered : Numbered p l) : Numbered p' l' := by
  induction h with
  | trans _ _ ih ih' => exact ih' (ih numbered)
  | lessens hseats hcalls =>
    refine numbered.of_links (fun id seat' hseat' => ?_)
      (Talks.lessens hseats hcalls).openedLinks_le
    obtain ⟨seat, hseat, rfl | rfl⟩ := hseats id seat' hseat'
    · exact ⟨_, hseat, rfl⟩
    · exact ⟨_, hseat, rfl⟩
  | @settles _ _ _ _ id seat seat' hseat h hseats =>
    refine numbered.of_links (fun other new hnew => ?_)
      (Talks.settles hseat h hseats).openedLinks_le
    rw [hseats] at hnew
    split at hnew
    · next heq =>
      cases hnew
      exact ⟨seat, heq ▸ hseat, h.link⟩
    · exact ⟨new, hnew, rfl⟩
  | givesUp hlink h =>
    exact numbered.of_links (fun id seat hseat => ⟨seat, hseat, rfl⟩)
      (Talks.givesUp (p := p) hlink h).openedLinks_le
  | @enters p p' l l' display own link id seat hlink h hseats =>
    have hnew : seat.link.id = (openedLinks l).length := by rw [h.seat_eq.1, hlink]
    have hcount : (openedLinks l').length = (openedLinks l).length + 1 := by
      rw [openedLinks_setsUp h, List.length_append]
      rfl
    constructor
    case known =>
      intro other seat' hseat'
      rw [hcount]
      rw [hseats] at hseat'
      split at hseat'
      · cases hseat'
        rw [hnew]
        exact Nat.lt_succ_self _
      · exact Nat.lt_succ_of_lt (numbered.known other seat' hseat')
    case own =>
      intro id₁ id₂ seat₁ seat₂ hseat₁ hseat₂ heq
      rw [hseats] at hseat₁ hseat₂
      -- the number of the new link is larger than those of the others
      split at hseat₁
      · next h₁ =>
        cases hseat₁
        split at hseat₂
        · next h₂ => exact h₁.symm.trans h₂
        · have hlt := numbered.known id₂ seat₂ hseat₂
          omega
      · split at hseat₂
        · cases hseat₂
          have hlt := numbered.known id₁ seat₁ hseat₁
          omega
        · exact numbered.own id₁ id₂ seat₁ seat₂ hseat₁ hseat₂ heq

/-! ## Links that are over -/

/-- The link has been opened, and no seat that works has it. -/
structure Over (p : SharedSeats) (l : List Call) (link : Nat) : Prop where
  known : link < (openedLinks l).length
  failed : ∀ id seat, p.get? id = some seat → seat.link.id = link → seat.failed = true

theorem Numbered.over (h : Numbered p l) (hseat : p.get? id = some seat)
    (hfailed : seat.failed = true) : Over p l seat.link.id where
  known := h.known id seat hseat
  failed other seat' hseat' hlink := by
    obtain rfl := h.own other id seat' seat hseat' hseat hlink
    obtain rfl : seat = seat' := Option.some.inj (hseat.symm.trans hseat')
    exact hfailed

/-- A link that is only being opened is not one that is over. -/
theorem Over.silent_setsUp {own : Nat} {new : Link} {r : Except SeatError Seat}
    (hover : Over p l link) (hnew : new.id = (openedLinks l).length)
    (h : Seat.SetsUp new (l ++ [.opened display own]) r l') :
    Adds (fun call => ¬call.On link) l l' := by
  refine (Adds.single _ nofun).trans (h.adds.mono ?_)
  rintro call ⟨-, r, answer, rfl⟩ ⟨r', answer', heq⟩
  cases heq
  exact Nat.lt_irrefl _ (hnew ▸ hover.known)

/-- Nothing is asked on a link that is over, and it stays so. -/
theorem Talks.over (h : Talks p l p' l') (hover : Over p l link) :
    Over p' l' link ∧ ∃ calls, l' = l ++ calls ∧ Silent link calls := by
  suffices both : Over p' l' link ∧ Adds (fun call => ¬call.On link) l l' from both
  induction h with
  | trans _ _ ih ih' =>
    obtain ⟨hover₁, silent₁⟩ := ih hover
    obtain ⟨hover₂, silent₂⟩ := ih' hover₁
    exact ⟨hover₂, silent₁.trans silent₂⟩
  | lessens hseats hcalls =>
    have hle := (Talks.lessens hseats hcalls).openedLinks_le
    refine ⟨⟨Nat.lt_of_lt_of_le hover.known hle, fun id seat' hseat' hlink => ?_⟩,
      hcalls.mono ?_⟩
    · obtain ⟨seat, hseat, rfl | rfl⟩ := hseats id seat' hseat'
      · exact hover.failed id _ hseat hlink
      · rfl
    · rintro call ⟨other, rfl⟩ ⟨r, answer, heq⟩
      cases heq
  | @settles _ _ _ _ id seat seat' hseat h hseats =>
    have hle := (Talks.settles hseat h hseats).openedLinks_le
    refine ⟨⟨Nat.lt_of_lt_of_le hover.known hle, fun other new hnew hlink => ?_⟩,
      h.own.mono ?_⟩
    · rw [hseats] at hnew
      split at hnew
      · cases hnew
        exact h.failed (hover.failed id seat hseat (h.link ▸ hlink))
      · exact hover.failed other new hnew hlink
    · -- a seat that asks works, so its link is another one
      rintro call ⟨hlive, r, answer, rfl⟩ ⟨r', answer', heq⟩
      cases heq
      rw [hover.failed id seat hseat rfl] at hlive
      cases hlive
  | @givesUp p l m display own newLink e hlink h =>
    have hle := (Talks.givesUp (p := p) hlink h).openedLinks_le
    exact ⟨⟨Nat.lt_of_lt_of_le hover.known hle, hover.failed⟩,
      (hover.silent_setsUp hlink h).trans (.single _ nofun)⟩
  | @enters p p' l l' display own newLink id seat hlink h hseats =>
    have hle := (Talks.enters hlink h hseats).openedLinks_le
    refine ⟨⟨Nat.lt_of_lt_of_le hover.known hle, fun other new hnew hnewLink => ?_⟩,
      hover.silent_setsUp hlink h⟩
    rw [hseats] at hnew
    split at hnew
    · cases hnew
      rw [h.seat_eq.1] at hnewLink
      exact absurd hover.known (by omega)
    · exact hover.failed other new hnew hnewLink

/-- A link that was opened for no seat is over. -/
theorem Numbered.over_of_le (h : Numbered p l) (hle : (openedLinks l).length ≤ link)
    (hlt : link < (openedLinks l').length) : Over p l' link where
  known := hlt
  failed id seat hseat hlink := by
    have hknown := h.known id seat hseat
    omega

/-- The only link that may refuse a flush while a seat is set up is the one that was opened for it,
and it is closed again. -/
theorem heeded_givesUp {own : Nat} {new : Link} {e : SeatError} (numbered : Numbered p l)
    (hnew : new.id = (openedLinks l).length)
    (h : Seat.SetsUp new (l ++ [.opened display own]) (.error e) m) :
    ∃ calls, m ++ [.closed new.id] = l ++ calls ∧ Heeded calls ∧
      ∀ link e, Call.asked link .flush (.error e) ∈ calls →
        Over p (m ++ [.closed new.id]) link := by
  have hcount : (openedLinks (m ++ [.closed new.id])).length = (openedLinks l).length + 1 := by
    rw [openedLinks_append, openedLinks_setsUp h, List.length_append, List.length_append]
    rfl
  have hown := h.adds
  obtain ⟨calls, rfl, heeded, -⟩ := h.heeded
  have hclosed : ∀ link, Silent link [.closed new.id] := by
    intro link
    refine List.forall_mem_singleton.mpr ?_
    rintro ⟨r, answer, heq⟩
    cases heq
  have opened : Heeded ([.opened display own] ++ calls) :=
    (Heeded.single _).append heeded fun link e hcall => by cases List.mem_singleton.mp hcall
  refine ⟨.opened display own :: calls ++ [.closed new.id], by simp,
    opened.append (.single _) fun link _ _ => hclosed link, fun link e hcall => ?_⟩
  have hmem : Call.asked link .flush (.error e) ∈ calls := by simpa using hcall
  obtain ⟨more, heq, hmore⟩ := hown
  obtain rfl := List.append_cancel_left heq
  obtain ⟨-, r, answer, hasked⟩ := hmore _ hmem
  cases hasked
  exact numbered.over_of_le (by omega) (by omega)

/-- By a refused flush the link is over, from that moment on. -/
theorem Talks.heeded (h : Talks p l p' l') (numbered : Numbered p l) :
    ∃ calls, l' = l ++ calls ∧ Heeded calls ∧
      ∀ link e, Call.asked link .flush (.error e) ∈ calls → Over p' l' link := by
  induction h with
  | @trans p p₁ p' l m l' h h' ih ih' =>
    obtain ⟨calls, rfl, heeded, hover⟩ := ih numbered
    obtain ⟨more, rfl, heeded', hover'⟩ := ih' (h.numbered numbered)
    -- a flush that was refused in the first part silences its link in the second one
    have hcross : ∀ link e, Call.asked link .flush (.error e) ∈ calls →
        Over p' (l ++ calls ++ more) link ∧ Silent link more := by
      intro link e hcall
      obtain ⟨hover, rest, heq, silent⟩ := h'.over (hover link e hcall)
      obtain rfl := List.append_cancel_left heq
      exact ⟨hover, silent⟩
    refine ⟨calls ++ more, List.append_assoc ..,
      heeded.append heeded' fun link e hcall => (hcross link e hcall).2, fun link e hcall => ?_⟩
    rcases List.mem_append.mp hcall with hcall | hcall
    · exact (hcross link e hcall).1
    · exact hover' link e hcall
  | lessens _ hcalls =>
    obtain ⟨calls, rfl, hcalls⟩ := hcalls
    have hnone : ∀ link e, Call.asked link .flush (.error e) ∉ calls := by
      intro link e hcall
      obtain ⟨other, heq⟩ := hcalls _ hcall
      cases heq
    exact ⟨calls, rfl, .of_none hnone, fun link e hcall => absurd hcall (hnone link e)⟩
  | @settles _ _ _ _ id seat seat' hseat h hseats =>
    obtain ⟨calls, rfl, heeded, hrefused⟩ := h.heeded
    refine ⟨calls, rfl, heeded, fun link e hcall => ?_⟩
    obtain ⟨rfl, hfailed⟩ := hrefused link e hcall
    have hseat' := (hseats id).trans (if_pos rfl)
    rw [← h.link]
    exact ((Talks.settles hseat h hseats).numbered numbered).over hseat' hfailed
  | givesUp hlink h => exact heeded_givesUp numbered hlink h
  | @enters p p' l l' display own link id seat hlink h hseats =>
    obtain ⟨calls, rfl, heeded, hnone⟩ := h.heeded
    have hnone' : ∀ link e, Call.asked link .flush (.error e) ∉ .opened display own :: calls := by
      intro link e hcall
      rcases List.mem_cons.mp hcall with hcall | hcall
      · cases hcall
      · exact hnone seat rfl link e hcall
    exact ⟨_, List.append_assoc .., .of_none hnone', fun link e hcall =>
      absurd hcall (hnone' link e)⟩

end SharedSeats

end InputBridge
