-- SUMMARY: Recorded runs of the broker, as courses of its shared seats with their calls.
import InputBridge.Proofs.Broker.Failure
import InputBridge.Proofs.SharedSeats.Calls

/-!
# What is asked in the course of a run

Whatever the broker does, it asks display servers for things through its shared seats. So a run
of the broker with the record of its calls is a course of the shared seats with that record.
-/

namespace InputBridge

namespace Broker

open Talk (Leads)
open SharedSeats (Talks)

variable {σ : Type} {S : DisplayServer σ} {b b' start : Broker} {c : ClientId} {id : SeatId}
  {seat : Seat} {window : WindowId} {handle : Handle} {l l' m : List Call} {r : Response}
  {requestId : UInt32}

/-! ## Operations on seats -/

/-- An answer that is given at once. -/
theorem talks_of_pure {α : Type} {a a' : α}
    (h : Leads (pure (a, b) : Talk (Recorded σ) (α × Broker)) l (a', b') l') :
    Talks b.seats l b'.seats l' := by
  obtain ⟨heq, rfl⟩ := h.of_pure
  cases heq
  exact .refl _ _

theorem onSeat_leads {α : Type} {operation : Seat → Talk (Recorded σ) (α × Seat)} {a : α}
    (h : (b.onSeat id seat operation).Leads l (a, b') l') :
    ∃ seat', (operation seat).Leads l (a, seat') l' ∧
      b' = { b with seats := b.seats.set id seat' } := by
  unfold onSeat at h
  obtain ⟨⟨a', seat'⟩, m, hoperation, h⟩ := h.of_bind
  obtain ⟨heq, rfl⟩ := h.of_pure
  cases heq
  exact ⟨seat', hoperation, rfl⟩

/-- What is set in the place of a seat that is there can be found there. -/
theorem get?_set_of_some {p : SharedSeats} (hseat : p.get? id = some seat) (seat' : Seat)
    (other : SeatId) :
    (p.set id seat').get? other = if id = other then some seat' else p.get? other := by
  rw [SharedSeats.get?_set]
  split
  · next heq => rw [← heq, hseat, Option.map_some]
  · rfl

theorem carryOut_talks {α : Type} {operation : Seat → Talk (Recorded σ) (α × Seat)} {a : α}
    (hseat : b.seats.get? id = some seat)
    (hqueues : ∀ a seat₁ m, (operation seat).Leads l (a, seat₁) m → seat.Queues l seat₁ m)
    (h : (b.carryOut S.recorded id seat operation).Leads l (a, b') l') :
    Talks b.seats l b'.seats l' := by
  obtain ⟨seat', hdone, rfl⟩ := onSeat_leads h
  obtain ⟨⟨a', seat₁⟩, m, hoperation, hdone⟩ := hdone.of_bind
  obtain ⟨seat₂, m', hflush, hdone⟩ := hdone.of_bind
  obtain ⟨heq, rfl⟩ := hdone.of_pure
  cases heq
  -- what the operation queued is flushed in the same go
  exact .settles hseat ((hqueues a seat₁ m hoperation).settles hflush) (get?_set_of_some hseat _)

/-- Windows are stopped one after the other, each of them at its seat if that is there. -/
theorem stopWindows_leads {windows : List WindowId}
    (h : (stopWindows S.recorded id (window :: windows) b).Leads l b' l') :
    ∃ seats m, (stopWindows S.recorded id windows { b.forgetWindow id window with seats }).Leads
        m b' l' ∧
      (b.seats.get? id = none ∧ seats = b.seats ∧ m = l ∨
        ∃ seat seat' r, b.seats.get? id = some seat ∧
          (seat.stopInput S.recorded window).Leads l (r, seat') m ∧
          seats = b.seats.set id seat') := by
  have hseats : (b.forgetWindow id window).seats = b.seats := seats_forgetWindow
  unfold stopWindows at h
  dsimp only at h
  split at h
  · next hnone => exact ⟨_, l, h, .inl ⟨hseats ▸ hnone, hseats, rfl⟩⟩
  · next seat hseat =>
    obtain ⟨⟨r, b₁⟩, m, hstop, h⟩ := h.of_bind
    obtain ⟨seat', hop, rfl⟩ := onSeat_leads hstop
    exact ⟨_, m, h, .inr ⟨seat, seat', r, hseats ▸ hseat, hop, by rw [hseats]⟩⟩

/-- The windows of a client are stopped without a flush. -/
theorem stopWindows_calls {windows : List WindowId}
    (h : (stopWindows S.recorded id windows b).Leads l b' l') :
    b.seats.get? id = none ∧ b'.seats = b.seats ∧ l' = l ∨
      ∃ seat seat', b.seats.get? id = some seat ∧ seat.Queues l seat' l' ∧
        ∀ other, b'.seats.get? other = if id = other then some seat' else b.seats.get? other := by
  induction windows generalizing b l with
  | nil =>
    obtain ⟨rfl, rfl⟩ := h.of_pure
    cases hseat : b'.seats.get? id with
    | none => exact .inl ⟨rfl, rfl, rfl⟩
    | some seat =>
      refine .inr ⟨seat, seat, rfl, .refl seat _, fun other => ?_⟩
      split
      · next heq => rw [← heq, hseat]
      · rfl
  | cons window windows ih =>
    obtain ⟨seats, m, hrest, ⟨hnone, rfl, rfl⟩ | ⟨seat, seat₁, r, hseat, hop, rfl⟩⟩ :=
      stopWindows_leads h
    · rcases ih hrest with hidle | ⟨seat, seat', hseat, -⟩
      · exact .inl hidle
      · simp [hnone] at hseat
    · have hset := get?_set_of_some hseat seat₁
      rcases ih hrest with ⟨hnone, -⟩ | ⟨seat₂, seat', hseat₂, queues, hviews⟩
      · simp [hset] at hnone
      · obtain rfl : seat₁ = seat₂ := by simpa [hset] using hseat₂
        refine .inr ⟨seat, seat', hseat, (Seat.stopInput_calls hop).trans queues, fun other => ?_⟩
        rw [hviews, hset]
        split <;> rfl

/-! ## Coming and going -/

/-- A client that detaches has its windows stopped; its seat, if it is there, sends what it queued
and is let go. -/
theorem detach_leads (h : (b.detach S.recorded c).Leads l b' l') :
    b.seatOf c = none ∧ b' = b ∧ l' = l ∨
      ∃ id b₁ m seats m' seats' last, b.seatOf c = some id ∧
        (stopWindows S.recorded id (b.windowsOf id c)
          { b with clients := b.clients.insert c none }).Leads l b₁ m ∧
        (b₁.seats.get? id = none ∧ seats = b₁.seats ∧ m' = m ∨
          ∃ seat seat', b₁.seats.get? id = some seat ∧
            (seat.flushIfPending S.recorded).Leads m seat' m' ∧
            seats = b₁.seats.set id seat') ∧
        (seats.release S.recorded id).Leads m' (last, seats') l' ∧
        b' = { b₁ with seats := seats' } := by
  unfold detach at h
  split at h
  · next hnone =>
    obtain ⟨rfl, rfl⟩ := h.of_pure
    exact .inl ⟨hnone, rfl, rfl⟩
  · next id hid =>
    obtain ⟨b₁, m, hstop, hrest⟩ := h.of_bind
    dsimp only at hrest
    split at hrest
    · next hgone =>
      obtain ⟨b₂, m₂, hsame, hthen⟩ := hrest.of_bind
      obtain ⟨rfl, rfl⟩ := hsame.of_pure
      obtain ⟨⟨last, seats'⟩, m₃, hrelease, hend⟩ := hthen.of_bind
      obtain ⟨rfl, rfl⟩ := hend.of_pure
      exact .inr ⟨id, _, _, _, _, seats', last, hid, hstop, .inl ⟨hgone, rfl, rfl⟩, hrelease, rfl⟩
    · next seat hseat =>
      obtain ⟨seat', m', hflush, hthen⟩ := hrest.of_bind
      obtain ⟨b₂, m₂, hset, hlast⟩ := hthen.of_bind
      obtain ⟨rfl, rfl⟩ := hset.of_pure
      obtain ⟨⟨last, seats'⟩, m₃, hrelease, hend⟩ := hlast.of_bind
      obtain ⟨rfl, rfl⟩ := hend.of_pure
      exact .inr ⟨id, b₁, m, _, _, seats', last, hid, hstop,
        .inr ⟨seat, seat', hseat, hflush, rfl⟩, hrelease, rfl⟩

theorem detach_talks (h : (b.detach S.recorded c).Leads l b' l') :
    Talks b.seats l b'.seats l' := by
  rcases detach_leads h with
    ⟨-, rfl, rfl⟩ | ⟨id, b₁, m, seats, m', seats', last, -, hstop, hflushed, hrelease, rfl⟩
  · exact .refl _ _
  have stopped : Talks b.seats l seats m' := by
    rcases stopWindows_calls hstop with ⟨hgone, hseats, rfl⟩ | ⟨seat, seat₁, hseat, queues, hviews⟩
    · rcases hflushed with ⟨-, rfl, rfl⟩ | ⟨seat, -, hseat, -⟩
      · rw [hseats]
        exact .refl _ _
      · rw [hseats] at hseat
        simp [hgone] at hseat
    · have hseat₁ := (hviews id).trans (if_pos rfl)
      rcases hflushed with ⟨hnone, -⟩ | ⟨seat₂, seat', hseat₂, hflush, rfl⟩
      · simp [hnone] at hseat₁
      · -- stopping the windows and the flush after them are one thing that the seat does
        obtain rfl : seat₁ = seat₂ := Option.some.inj (hseat₁.symm.trans hseat₂)
        refine .settles hseat (queues.settles hflush) fun other => ?_
        rw [get?_set_of_some hseat₁, hviews]
        split <;> rfl
  exact stopped.trans (SharedSeats.release_talks hrelease)

/-- Whoever attaches leaves its old seat first, and then takes one if there is one. -/
theorem attach_leads {display : String} {result : Except SeatError SeatId}
    (h : (b.attach S.recorded c display).Leads l (result, b') l') :
    ∃ b₁ m seats, (b.detach S.recorded c).Leads l b₁ m ∧
      (b₁.seats.take S.recorded display).Leads m (result, seats) l' ∧
      ((∃ e, result = .error e) ∧ seats = b₁.seats ∧ b' = b₁ ∨
        ∃ id, result = .ok id ∧
          b' = { b₁ with clients := b₁.clients.insert c (some id), seats }) := by
  unfold attach at h
  obtain ⟨b₁, m, hdetach, hrest⟩ := h.of_bind
  obtain ⟨⟨taken, seats⟩, m', htake, hend⟩ := hrest.of_bind
  cases taken with
  | error e =>
    obtain ⟨heq, rfl⟩ := hend.of_pure
    cases heq
    obtain ⟨rfl, -⟩ := SharedSeats.take_refused htake
    exact ⟨_, m, _, hdetach, htake, .inl ⟨⟨e, rfl⟩, rfl, rfl⟩⟩
  | ok id =>
    obtain ⟨heq, rfl⟩ := hend.of_pure
    cases heq
    exact ⟨b₁, m, seats, hdetach, htake, .inr ⟨id, rfl, rfl⟩⟩

theorem attach_talks {display : String} {result : Except SeatError SeatId}
    (h : (b.attach S.recorded c display).Leads l (result, b') l') :
    Talks b.seats l b'.seats l' := by
  obtain ⟨b₁, m, seats, hdetach, htake, ⟨-, rfl, rfl⟩ | ⟨id, -, rfl⟩⟩ := attach_leads h
  · exact (detach_talks hdetach).trans (SharedSeats.take_talks htake)
  · exact (detach_talks hdetach).trans (SharedSeats.take_talks htake)

theorem removeClient_talks (h : (b.removeClient S.recorded c).Leads l b' l') :
    Talks b.seats l b'.seats l' := by
  unfold removeClient at h
  obtain ⟨b₁, m, hdetach, h⟩ := h.of_bind
  have detached := detach_talks hdetach
  obtain ⟨rfl, rfl⟩ := h.of_pure
  exact detached

/-! ## Requests -/

theorem onHello_seats (b : Broker) (c : ClientId) (requestId version : UInt32) :
    (b.onHello c requestId version).2.seats = b.seats := by
  unfold onHello
  split
  · rfl
  split
  · rfl
  · unfold addClient
    split <;> rfl

/-- Nothing is asked where there are no displays; otherwise only what attaching asks for. -/
theorem onConnect_leads {display : String} {answer : Message} {out : List Outbound}
    (h : (b.onConnect S.recorded c requestId display).Leads l (answer, out, b') l') :
    b.config.displaysEnabled = false ∧
        answer = .response { id := requestId, status := .notSupported } ∧ out = [] ∧ b' = b ∧
        l' = l ∨
      b.config.displaysEnabled = true ∧
        ∃ r, (b.attach S.recorded c display).Leads l (r, b') l' ∧
          b'.Welcome c requestId r answer out := by
  unfold onConnect at h
  split at h
  · next hdisabled =>
    obtain ⟨heq, rfl⟩ := h.of_pure
    cases heq
    exact .inl ⟨by simpa using hdisabled, rfl, rfl, rfl, rfl⟩
  · next henabled =>
    refine .inr ⟨by simpa using henabled, ?_⟩
    obtain ⟨⟨r, b₁⟩, m, hattach, hrest⟩ := h.of_bind
    cases r with
    | error e =>
      obtain ⟨heq, rfl⟩ := hrest.of_pure
      cases heq
      exact ⟨_, hattach, .refused e⟩
    | ok id =>
      obtain ⟨seat, hseat⟩ := Option.isSome_iff_exists.mp (isSome_of_attach hattach.yields)
      -- the seat that was attached to is there, so the last branch is not taken
      dsimp only at hrest
      rw [hseat] at hrest
      obtain ⟨heq, rfl⟩ := hrest.of_pure
      cases heq
      exact ⟨_, hattach, .connected hseat⟩

theorem onConnect_talks {display : String} {answer : Message} {out : List Outbound}
    (h : (b.onConnect S.recorded c requestId display).Leads l (answer, out, b') l') :
    Talks b.seats l b'.seats l' := by
  rcases onConnect_leads h with ⟨-, -, -, rfl, rfl⟩ | ⟨-, r, hattach, -⟩
  · exact .refl _ _
  · exact attach_talks hattach

theorem onStartInput_talks
    (h : (b.onStartInput S.recorded c requestId window handle).Leads l (r, b') l') :
    Talks b.seats l b'.seats l' := by
  unfold onStartInput at h
  split at h
  · exact talks_of_pure h
  split at h
  · exact talks_of_pure h
  · next id screen seat hworks =>
    obtain ⟨-, hseat, -⟩ := workingSeat_eq_ok hworks
    obtain ⟨⟨result, b₁⟩, m, hcarry, h⟩ := h.of_bind
    have talks := carryOut_talks hseat (fun _ _ _ => Seat.startInput_calls) hcarry
    cases result with
    | ok u =>
      obtain ⟨heq, rfl⟩ := h.of_pure
      cases heq
      rw [seats_ownWindow]
      exact talks
    | error e =>
      obtain ⟨heq, rfl⟩ := h.of_pure
      cases heq
      exact talks

/-- A seat that has failed is stopped all the same, which asks nothing of the display server. -/
theorem onStopInput_talks
    (h : (b.onStopInput S.recorded c requestId window).Leads l (r, b') l') :
    Talks b.seats l b'.seats l' := by
  unfold onStopInput at h
  split at h
  · exact talks_of_pure h
  · next id hid =>
    split at h
    · exact talks_of_pure h
    -- the record is forgotten before the seat is asked for, which leaves the seats alone
    · have hseats : (b.forgetWindow id window).seats = b.seats := seats_forgetWindow
      dsimp only at h
      rw [← hseats]
      split at h
      · exact talks_of_pure h
      · next seat hseat =>
        obtain ⟨⟨old, b₁⟩, m, hcarry, h⟩ := h.of_bind
        obtain ⟨heq, rfl⟩ := h.of_pure
        cases heq
        exact carryOut_talks hseat (fun _ _ _ => Seat.stopInput_calls) hcarry

theorem onClipCursor_talks {rect : Option Rect}
    (h : (b.onClipCursor S.recorded c requestId rect).Leads l (r, b') l') :
    Talks b.seats l b'.seats l' := by
  unfold onClipCursor at h
  split at h
  · exact talks_of_pure h
  dsimp only at h
  split at h
  · exact talks_of_pure h
  · next hworks =>
    obtain ⟨-, hseat, hlive⟩ := workingSeat_eq_ok hworks
    obtain ⟨⟨result, b₁⟩, m, hcarry, h⟩ := h.of_bind
    obtain ⟨heq, rfl⟩ := h.of_pure
    cases heq
    exact carryOut_talks hseat (fun _ _ _ => Seat.clip_calls hlive) hcarry

theorem onSetCursorPos_talks {x y : Int32}
    (h : (b.onSetCursorPos S.recorded c requestId x y).Leads l (r, b') l') :
    Talks b.seats l b'.seats l' := by
  unfold onSetCursorPos at h
  split at h
  · exact talks_of_pure h
  · next hworks =>
    obtain ⟨-, hseat, hlive⟩ := workingSeat_eq_ok hworks
    obtain ⟨⟨result, b₁⟩, m, hcarry, h⟩ := h.of_bind
    obtain ⟨heq, rfl⟩ := h.of_pure
    cases heq
    exact carryOut_talks hseat (fun _ _ _ => Seat.warp_calls hlive) hcarry

/-- Where the response is all there is to say, it is that of the operation. -/
theorem alone_leads {operation : Talk (Recorded σ) (Response × Broker)} {answer : Message}
    {out : List Outbound} (h : (do return alone (← operation)).Leads l (answer, out, b') l') :
    ∃ r, operation.Leads l (r, b') l' := by
  obtain ⟨⟨r, b₁⟩, m, hoperation, h⟩ := Leads.of_bind h
  obtain ⟨heq, rfl⟩ := h.of_pure
  cases heq
  exact ⟨r, hoperation⟩

theorem handle_talks {message answer : Message} {out : List Outbound}
    (h : (b.handle S.recorded c message).Leads l (answer, out, b') l') :
    Talks b.seats l b'.seats l' := by
  cases message with
  | hello requestId version role =>
    obtain ⟨heq, rfl⟩ := h.of_pure
    obtain rfl : b' = (b.onHello c requestId version).2 := congrArg (·.2.2) heq
    rw [onHello_seats]
    exact .refl _ _
  | connect requestId display => exact onConnect_talks h
  | startInput requestId window handle =>
    obtain ⟨r, hstart⟩ := alone_leads h
    exact onStartInput_talks hstart
  | stopInput requestId window =>
    obtain ⟨r, hstop⟩ := alone_leads h
    exact onStopInput_talks hstop
  | clipCursor requestId rect =>
    obtain ⟨r, hclip⟩ := alone_leads h
    exact onClipCursor_talks hclip
  | setCursorPos requestId x y =>
    obtain ⟨r, hwarp⟩ := alone_leads h
    exact onSetCursorPos_talks hwarp
  | getTables | listLayouts | helloAck | input | languageChange | lockState | response =>
    obtain ⟨heq, rfl⟩ := h.of_pure
    cases heq
    exact .refl _ _

theorem dispatch_talks {event : Event} {out : List Outbound}
    (h : (b.dispatch S.recorded id event).Leads l (out, b') l') :
    Talks b.seats l b'.seats l' := by
  unfold dispatch at h
  split at h
  · obtain ⟨heq, rfl⟩ := h.of_pure
    cases heq
    exact .refl _ _
  · next seat hseat =>
    obtain ⟨⟨seat', deliveries⟩, m, hdispatch, h⟩ := h.of_bind
    obtain ⟨heq, rfl⟩ := h.of_pure
    cases heq
    -- the seat has settled by then; if it failed, only its display is given up after that
    have talks : Talks b.seats l (b.seats.set id seat') l' :=
      .settles hseat (Seat.dispatch_calls hdispatch) (get?_set_of_some hseat _)
    split
    · exact talks.trans (SharedSeats.markFailed_talks _ id _)
    · exact talks

/-! ## Recorded runs -/

/-- The step may be taken when the calls so far are `l`, and then they are `l'`. -/
def Step.Calls (S : DisplayServer σ) (s : Step) (l l' : List Call) : Prop :=
  (s.before.act S.recorded s.action).Leads l (s.answer, s.out, s.after) l'

theorem Step.Calls.possible {s : Step} (h : s.Calls S l l') : s.Possible S.recorded := h.yields

section Steps

variable {s : Step}

theorem Step.Calls.of_message {m : Message} (calls : s.Calls S l l')
    (haction : s.action = .message c m) : ∃ answer, s.answer = some answer ∧
      (s.before.handle S.recorded c m).Leads l (answer, s.out, s.after) l' := by
  rw [Calls, haction] at calls
  obtain ⟨⟨answer, out, b⟩, l₁, hhandle, h⟩ := Checked.Leads.of_bind calls
  obtain ⟨heq, rfl⟩ := h.of_pure
  obtain ⟨hanswer, rfl, rfl⟩ : s.answer = some answer ∧ s.out = out ∧ s.after = b := by
    simpa using heq
  exact ⟨answer, hanswer, hhandle.of_talk⟩

theorem Step.Calls.of_event {e : Event} (calls : s.Calls S l l')
    (haction : s.action = .event id e) :
    (s.before.dispatch S.recorded id e).Leads l (s.out, s.after) l' := by
  rw [Calls, haction] at calls
  obtain ⟨⟨out, b⟩, l₁, hdispatch, h⟩ := Checked.Leads.of_bind calls
  obtain ⟨heq, rfl⟩ := h.of_pure
  obtain ⟨-, rfl, rfl⟩ : s.answer = none ∧ s.out = out ∧ s.after = b := by simpa using heq
  exact hdispatch

theorem Step.Calls.of_failure (calls : s.Calls S l l') (haction : s.action = .failure id) :
    s.after = s.before.markFailed id ∧ l' = l := by
  rw [Calls, haction] at calls
  obtain ⟨heq, rfl⟩ := Checked.Leads.of_pure calls
  exact ⟨congrArg (·.2.2) heq, rfl⟩

theorem Step.Calls.of_departure (calls : s.Calls S l l') (haction : s.action = .departure c) :
    (s.before.removeClient S.recorded c).Leads l s.after l' := by
  rw [Calls, haction] at calls
  obtain ⟨b, l₁, hremove, h⟩ := Checked.Leads.of_bind calls
  obtain ⟨heq, rfl⟩ := h.of_pure
  obtain rfl : s.after = b := congrArg (·.2.2) heq
  exact hremove.of_talk

theorem Step.Calls.talks (calls : s.Calls S l l') : Talks s.before.seats l s.after.seats l' := by
  cases haction : s.action with
  | message c m =>
    obtain ⟨answer, -, hhandle⟩ := calls.of_message haction
    exact handle_talks hhandle
  | event id e => exact dispatch_talks (calls.of_event haction)
  | failure id =>
    obtain ⟨hafter, rfl⟩ := calls.of_failure haction
    rw [hafter]
    exact SharedSeats.markFailed_talks _ id _
  | departure c => exact removeClient_talks (calls.of_departure haction)

end Steps

/-- The steps that lead from one state of the broker to another, with the calls by then. Between
two steps the display servers may go on by themselves, but the record stays. -/
inductive RecordedRun (S : DisplayServer σ) (start : Broker) (l : List Call) :
    List Step → Broker → List Call → Prop where
  | nil : RecordedRun S start l [] start l
  | snoc {steps : List Step} {s : Step} {m l' : List Call} :
      RecordedRun S start l steps s.before m → s.Calls S m l' →
        RecordedRun S start l (steps ++ [s]) s.after l'

variable {steps : List Step} {config : BrokerConfig}

theorem RecordedRun.run (run : RecordedRun S start l steps b l') :
    Run S.recorded start steps b := by
  induction run with
  | nil => exact .nil
  | snoc _ calls ih => exact ih.snoc calls.possible

theorem RecordedRun.talks (run : RecordedRun S start l steps b l') :
    Talks start.seats l b.seats l' := by
  induction run with
  | nil => exact .refl _ _
  | snoc _ calls ih => exact ih.trans calls.talks

theorem RecordedRun.reachable (run : RecordedRun S { config } [] steps b l) :
    Reachable S.recorded b :=
  ⟨config, steps, run.run⟩

/-! ## Playing -/

/-- The step that the broker takes with an action in a state of the display servers, and the
calls after it, unless it overflows. -/
def recordedStepOf? (S : DisplayServer σ) (b : Broker) (action : Action) (w : World σ)
    (l : List Call) : Option (Step × List Call) :=
  let w := { w with server := { server := w.server, calls := l } }
  (b.stepOf? S.recorded action w).map (·, ((b.act S.recorded action).run w).2.server.calls)

theorem of_recordedStepOf? {action : Action} {w : World σ} {s : Step}
    (h : b.recordedStepOf? S action w l = some (s, l')) :
    s.before = b ∧ s.action = action ∧ s.Calls S l l' := by
  obtain ⟨s', hstep, heq⟩ := Option.map_eq_some_iff.mp h
  cases heq
  obtain ⟨rfl, rfl, hact⟩ := of_stepOf? hstep
  exact ⟨rfl, rfl, _, rfl, hact, rfl⟩

/-- The steps that the broker takes with actions, up to one that overflows, and the calls after
them. -/
def playRecorded (S : DisplayServer σ) (b : Broker) (l : List Call) :
    List (Action × World σ) → List Step × List Call
  | [] => ([], l)
  | (action, w) :: rest =>
    match b.recordedStepOf? S action w l with
    | none => ([], l)
    | some (s, m) =>
      let (steps, l') := playRecorded S s.after m rest
      (s :: steps, l')

theorem RecordedRun.play (run : RecordedRun S start l steps b m)
    (actions : List (Action × World σ)) :
    RecordedRun S start l (steps ++ (b.playRecorded S m actions).1)
      (b.finish (b.playRecorded S m actions).1) (b.playRecorded S m actions).2 := by
  induction actions generalizing steps b m with
  | nil => simpa [playRecorded, finish] using run
  | cons first rest ih =>
    obtain ⟨action, w⟩ := first
    rw [playRecorded]
    cases hstep : b.recordedStepOf? S action w m with
    | none => simpa [finish] using run
    | some taken =>
      obtain ⟨s, m'⟩ := taken
      obtain ⟨rfl, -, calls⟩ := of_recordedStepOf? hstep
      simpa [finish] using ih (run.snoc calls)

theorem recordedRun_play (S : DisplayServer σ) (b : Broker) (l : List Call)
    (actions : List (Action × World σ)) :
    RecordedRun S b l (b.playRecorded S l actions).1 (b.finish (b.playRecorded S l actions).1)
      (b.playRecorded S l actions).2 :=
  RecordedRun.nil.play actions

end Broker

end InputBridge
