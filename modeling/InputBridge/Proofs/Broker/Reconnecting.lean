-- SUMMARY: What a client that is refused a display has lost, and that nothing stays of the attempt.
import InputBridge.Proofs.Broker.Detaching
import InputBridge.Proofs.Broker.Isolation

/-!
# Connecting in vain

A client that connects leaves its seat before it takes another. If it is refused the other, it is
left without any: what it had is gone as if it had detached, and of what was opened for it nothing
stays. The others do not notice.
-/

namespace InputBridge

/-! ## A seat that cannot be opened -/

namespace SharedSeats

variable {σ : Type} {S : DisplayServer σ} {p p' : SharedSeats} {l l' : List Call}
  {display : String} {e : SeatError}

/-- What is opened for a display whose seat is refused is closed in the end. -/
structure OpensInVain (display : String) (p : SharedSeats) (l : List Call) (p' : SharedSeats)
    (l' : List Call) : Prop where
  /-- The display leads to no seat. -/
  unoffered : p'.byDisplay.get? display = none
  /-- All seats were there before, and over the same links. -/
  seats : ∀ id seat', p'.get? id = some seat' →
    ∃ seat, p.get? id = some seat ∧ seat'.link = seat.link
  /-- A link that was opened meanwhile has been closed, and nothing was asked after that. -/
  links : ∀ link, (openedLinks l).length ≤ link → link < (openedLinks l').length →
    l'.getLast? = some (.closed link)

/-- The only link that may have been opened is closed by the last call. -/
theorem getLast?_connect (h : (Seat.connect S.recorded display).Leads l (.error e) l')
    {link : Nat} (hnew : (openedLinks l).length ≤ link) (hlink : link < (openedLinks l').length) :
    l'.getLast? = some (.closed link) := by
  rcases Seat.connect_calls h with
    ⟨-, -, rfl⟩ | ⟨own, opened, m, hopened, sets, ⟨-, rfl⟩ | ⟨⟨seat, hseat⟩, -⟩⟩
  -- no link was opened, so there is no number between the two
  · exact absurd hlink (Nat.not_lt_of_le hnew)
  -- exactly one link was opened, and it has the next number
  · have hcount : openedLinks (m ++ [.closed opened.id]) = openedLinks l ++ [own] := by
      rw [openedLinks_append, openedLinks_setsUp sets]
      exact List.append_nil _
    obtain rfl : opened.id = link := by
      rw [hcount, List.length_append, List.length_singleton] at hlink
      omega
    exact List.getLast?_concat
  · cases hseat

/-- A display leads to a seat that is there or to none at all, so it leads to none if the seat had
to be opened. -/
theorem unoffered_of_refused {taken : SeatId → Nat} (sound : p.Sound taken)
    (h : (p.take S.recorded display).Leads l (.error e, p') l') :
    p.byDisplay.get? display = none := by
  rcases take_yields h.yields with ⟨id, shared, -, hok, -⟩ | ⟨unoffered, -⟩
  · cases hok
  · refine Option.eq_none_iff_forall_ne_some.mpr fun id hlink => ?_
    obtain ⟨seat, hseat, -⟩ := sound.linked display id hlink
    obtain ⟨shared, hshared, -⟩ := Option.map_eq_some_iff.mp hseat
    exact unoffered id shared ⟨hlink, hshared⟩

end SharedSeats

namespace Broker

variable {σ : Type} {S : DisplayServer σ} {b b' : Broker} {c : ClientId} {l l' m : List Call}
  {requestId : UInt32} {display : String} {e : SeatError}

/-! ## A request that is refused -/

/-- A client is refused because there are no displays at all, or because the seat cannot be
opened. -/
theorem onConnect_refused {answer : Message} {out : List Outbound}
    (h : (b.onConnect S.recorded c requestId display).Leads l (answer, out, b') l')
    (hrefused : ∀ r, answer = .response r → r.status ≠ .ok) :
    out = [] ∧
      (b.config.displaysEnabled = false ∧
          answer = .response { id := requestId, status := .notSupported } ∧ b' = b ∧ l' = l ∨
        b.config.displaysEnabled = true ∧
          answer = .response (.failure requestId "host_connect_failed") ∧
          ∃ m e, (b.detach S.recorded c).Leads l b' m ∧
            (b'.seats.take S.recorded display).Leads m (.error e, b'.seats) l') := by
  rcases onConnect_leads h with
    ⟨hdisabled, rfl, rfl, hsame, hquiet⟩ | ⟨henabled, r, hattach, hwelcome⟩
  · exact ⟨rfl, .inl ⟨hdisabled, rfl, hsame, hquiet⟩⟩
  cases hwelcome with
  | refused e =>
    obtain ⟨b₁, m, seats, hdetach, htake, ⟨-, rfl, rfl⟩ | ⟨id, hr, -⟩⟩ := attach_leads hattach
    -- the client is told nothing but that, and is at no seat
    · exact ⟨rfl, .inr ⟨henabled, rfl, m, e, hdetach, htake⟩⟩
    · cases hr
  | connected => exact absurd rfl (hrefused _ rfl)

/-! ## What is left behind -/

/-- Calls on other links take nothing from what a client leaves behind. -/
theorem Detaches.append (h : Detaches c b l b' m)
    (hmore : Adds (fun call => ∀ id seat, b.seats.get? id = some seat →
      call ≠ .closed seat.link.id) m l') : Detaches c b l b' l' := by
  refine { h with closed := ?_ }
  obtain ⟨calls, rfl, hclosed⟩ := h.closed
  obtain ⟨more, rfl, hmore⟩ := hmore
  refine ⟨calls ++ more, List.append_assoc .., fun id seat hseat => ?_⟩
  have hnone : Call.closed seat.link.id ∉ more := fun hmem => hmore _ hmem id seat hseat rfl
  rw [List.mem_append, or_iff_left hnone]
  exact hclosed id seat hseat

/-- The client has left its seat, and what was opened for another is closed. -/
theorem detach_take_refused {config : BrokerConfig} {steps : List Step}
    (run : RecordedRun S { config } [] steps b l) (hdetach : (b.detach S.recorded c).Leads l b' m)
    (htake : (b'.seats.take S.recorded display).Leads m (.error e, b'.seats) l') :
    Detaches c b l b' l' ∧ b.seats.OpensInVain display l b'.seats l' := by
  have balanced := run.reachable.balanced
  obtain ⟨hlinks, hseats⟩ := detach_links balanced hdetach
  -- the seat was not there, so it was to be opened
  obtain ⟨-, hconnect⟩ := SharedSeats.take_refused htake
  constructor
  · refine (detach_detaches run hdetach).append ?_
    refine (SharedSeats.connect_not_concerns hconnect).mono fun call hcall id seat hseat heq => ?_
    have hknown : seat.link.id < (openedLinks m).length := hlinks ▸ run.numbered.known id seat hseat
    exact hcall _ hknown (.inr heq)
  · refine ⟨?_, hseats, fun link hnew hlink => ?_⟩
    · have balanced' : b'.Balanced := (detach_moves hdetach.yields).1.balanced balanced
      exact SharedSeats.unoffered_of_refused balanced'.seats htake
    · exact SharedSeats.getLast?_connect hconnect (hlinks ▸ hnew) hlink

/-! ## Steps -/

variable {steps : List Step} {s : Step} {config : BrokerConfig}

/-- A client that is refused when it connects changes nothing if there are no displays. Otherwise
it has no seat and no window any more, nothing stays of what was opened for it, and all seats but
the one that it had are spared. -/
theorem RecordedRun.connect_refused (run : RecordedRun S { config } [] steps s.before l)
    (calls : s.Calls S l l') (haction : s.action = .message c (.connect requestId display))
    (hrefused : ∀ r, s.answer = some (.response r) → r.status ≠ .ok) :
    s.out = [] ∧
    (s.before.config.displaysEnabled = false →
      s.answer = some (.response { id := requestId, status := .notSupported }) ∧
      s.after = s.before ∧ l' = l) ∧
    (s.before.config.displaysEnabled = true →
      s.answer = some (.response (.failure requestId "host_connect_failed")) ∧
      s.after.seatOf c = none ∧ (∀ id window, s.after.ownerOf id window ≠ some c) ∧
      Detaches c s.before l s.after l' ∧
      s.before.seats.OpensInVain display l s.after.seats l' ∧
      ∀ id, s.before.seatOf c ≠ some id → Spares id s.before l s.after l') := by
  obtain ⟨answer, hanswer, hconnect⟩ := calls.of_message haction
  obtain ⟨hout, ⟨hdisabled, rfl, hsame, hquiet⟩ | ⟨henabled, rfl, m, e, hdetach, htake⟩⟩ :=
    onConnect_refused hconnect fun r heq => hrefused r (hanswer.trans (congrArg some heq))
  · refine ⟨hout, fun _ => ⟨hanswer, hsame, hquiet⟩, fun henabled => ?_⟩
    simp [hdisabled] at henabled
  · refine ⟨hout, fun hdisabled => by simp [henabled] at hdisabled, fun _ => ?_⟩
    obtain ⟨moves, hnone⟩ := detach_moves hdetach.yields
    obtain ⟨detaches, inVain⟩ := detach_take_refused run hdetach htake
    refine ⟨hanswer, hnone, fun id window howner => ?_, detaches, inVain, fun id hne => ?_⟩
    · -- whoever owns a window has a seat
      have owned : s.after.Owned := moves.owned run.reachable.owned
      simp [owned.of_ownerOf howner] at hnone
    · have touches := calls.touches_of_client (.inl ⟨_, haction⟩)
      exact (touches.spares run.numbered (not_or.mpr ⟨hne, by simp [hnone]⟩)).1

/-- The first client asks for the display that it is at while the server does not flush. Its window
is stopped and its seat is closed for that, and the new one cannot be set up. The second client's
seat is spared. -/
theorem twoDisplays_connect_refused :
    let played := fresh.playRecorded plainServer [] twoDisplays
    let b := fresh.finish played.1
    ∃ s l', b.recordedStepOf? plainServer (.message 0 (.connect 3 ":0")) ⟨true, 1⟩ played.2 =
        some (s, l') ∧
      b.seatOf 0 = some 0 ∧ b.ownerOf 0 0x500 = some 0 ∧
      (openedLinks l').length = (openedLinks played.2).length + 1 ∧
      s.answer = some (.response (.failure 3 "host_connect_failed")) ∧
      s.after.seatOf 0 = none ∧ Detaches 0 b played.2 s.after l' ∧
      b.seats.OpensInVain ":0" played.2 s.after.seats l' ∧ Spares 1 b played.2 s.after l' := by
  intro played b
  have run : RecordedRun plainServer fresh [] played.1 b played.2 := recordedRun_play ..
  obtain ⟨hold, howner, henabled⟩ : b.seatOf 0 = some 0 ∧ b.ownerOf 0 0x500 = some 0 ∧
      b.config.displaysEnabled = true := by decide +kernel
  obtain ⟨⟨s, l'⟩, hstep, hlinks, hanswer⟩ : ∃ taken ∈ b.recordedStepOf? plainServer
      (.message 0 (.connect 3 ":0")) ⟨true, 1⟩ played.2,
      (openedLinks taken.2).length = (openedLinks played.2).length + 1 ∧
      taken.1.answer = some (.response (.failure 3 "host_connect_failed")) := by decide +kernel
  refine ⟨s, l', hstep, hold, howner, hlinks, hanswer, ?_⟩
  obtain ⟨hbefore, haction, calls⟩ := of_recordedStepOf? hstep
  have hrefused : ∀ r, s.answer = some (.response r) → r.status ≠ .ok := by
    intro r heq
    cases hanswer.symm.trans heq
    exact nofun
  -- how the broker came to be there is of no account from here on
  clear_value b played
  rw [← hbefore] at run hold henabled ⊢
  obtain ⟨-, -, hgone⟩ := RecordedRun.connect_refused run calls haction hrefused
  obtain ⟨-, hnone, -, detaches, inVain, hspares⟩ := hgone henabled
  exact ⟨hnone, detaches, inVain, hspares 1 (by simp [hold])⟩

end Broker

end InputBridge
