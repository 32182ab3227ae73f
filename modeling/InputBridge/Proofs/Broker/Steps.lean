-- SUMMARY: Every step of the broker as moves, a registration or a refused one.
import InputBridge.Proofs.Broker.Moves

/-!
# Steps as moves

Every step of the broker is a series of moves, except a registration that was granted
or that the display server refused, which the answer tells. What every move and every
such registration keeps therefore holds along all runs.
-/

namespace InputBridge

namespace Broker

variable {σ : Type} {S : DisplayServer σ} {b b' : Broker} {c c' : ClientId} {id id' : SeatId}
  {seat seat' : Seat} {window window' : WindowId} {handle handle' : Handle}

/-! ## Requests that register nothing -/

theorem workingSeat_eq_ok {requestId : UInt32} {screen : Rect}
    (h : b.workingSeat requestId c = .ok (id, screen, seat)) :
    b.seatOf c = some id ∧ b.seats.get? id = some seat ∧ seat.failed = false := by
  unfold workingSeat at h
  split at h
  · cases h
  · next hc =>
    split at h
    · cases h
    · next hseat =>
      split at h
      · cases h
      · next hlive =>
        cases h
        exact ⟨hc, hseat, by simpa using hlive⟩

/-- Where no seat works, the answer says so. -/
theorem workingSeat_eq_error {requestId : UInt32} {r : Response}
    (h : b.workingSeat requestId c = .error r) : r.status ≠ .ok := by
  unfold workingSeat at h
  split at h
  · cases h
    exact nofun
  · split at h
    · cases h
      exact nofun
    · split at h
      · cases h
        exact nofun
      · cases h

theorem onHello_moves (requestId version : UInt32) :
    Moves S b (b.onHello c requestId version).2 := by
  unfold onHello
  split
  · exact .refl
  split
  · exact .refl
  · unfold addClient
    split
    · exact .refl
    · next hnew => exact .single (.greet (by simpa [Assoc.contains] using hnew))

/-- What a client that connects is told: that it cannot, or the screen of its seat, with the locked
modifiers after it. -/
inductive Welcome (b : Broker) (c : ClientId) (requestId : UInt32) :
    Except SeatError SeatId → Message → List Outbound → Prop where
  | refused (e : SeatError) :
      Welcome b c requestId (.error e) (.response (.failure requestId "host_connect_failed")) []
  | connected {id : SeatId} {seat : Seat} (hseat : b.seats.get? id = some seat) :
      Welcome b c requestId (.ok id)
        (.response {
          id := requestId
          root := some seat.link.root
          screenWidth := some seat.link.width
          screenHeight := some seat.link.height })
        [⟨c, .lockState 0 seat.keyboard.locks⟩]

/-- A client connects if there are displays and the one it asks for can be had. -/
theorem onConnect_yields {requestId : UInt32} {display : String} {answer : Message}
    {out : List Outbound} (h : (b.onConnect S c requestId display).Yields (answer, out, b')) :
    b.config.displaysEnabled = false ∧
        answer = .response { id := requestId, status := .notSupported } ∧ out = [] ∧ b' = b ∨
      b.config.displaysEnabled = true ∧ ∃ r, (b.attach S c display).Yields (r, b') ∧
        b'.Welcome c requestId r answer out := by
  unfold onConnect at h
  split at h
  · next hdisabled =>
    cases h.of_pure
    exact .inl ⟨by simpa using hdisabled, rfl, rfl, rfl⟩
  · next henabled =>
    refine .inr ⟨by simpa using henabled, ?_⟩
    obtain ⟨⟨r, b₁⟩, hattach, hrest⟩ := h.of_bind
    cases r with
    | error e =>
      cases hrest.of_pure
      exact ⟨_, hattach, .refused e⟩
    | ok id =>
      -- the seat was taken a moment ago, so it is there
      obtain ⟨seat, hseat⟩ := Option.isSome_iff_exists.mp (isSome_of_attach hattach)
      dsimp only at hrest
      rw [hseat] at hrest
      cases hrest.of_pure
      exact ⟨_, hattach, .connected hseat⟩

theorem onConnect_moves {requestId : UInt32} {display : String} {answer : Message}
    {out : List Outbound} (h : (b.onConnect S c requestId display).Yields (answer, out, b')) :
    Moves S b b' := by
  rcases onConnect_yields h with ⟨-, -, -, rfl⟩ | ⟨-, r, hattach, -⟩
  · exact .refl
  · exact attach_moves hattach

theorem onStopInput_moves {requestId : UInt32} {r : Response}
    (h : (b.onStopInput S c requestId window).Yields (r, b')) : Moves S b b' := by
  unfold onStopInput at h
  split at h
  · cases h.of_pure
    exact .refl
  · next id hid =>
    split at h
    · cases h.of_pure
      exact .refl
    · have hseats : (b.forgetWindow id window).seats = b.seats := seats_forgetWindow
      dsimp only at h
      split at h
      · next hgone =>
        cases h.of_pure
        exact .single (.forget window (hseats ▸ hgone))
      · next seat hseat =>
        obtain ⟨⟨old, b₁⟩, hcarry, h⟩ := h.of_bind
        cases h.of_pure
        obtain ⟨seat₁, seat', hstop, flushed, rfl⟩ := carryOut_yields hcarry
        obtain ⟨continues, -, hwindows⟩ := Seat.stopInput_yields hstop
        rw [hseats] at hseat ⊢
        exact .single (.stop hseat (continues.trans flushed.toContinues)
          (flushed.windows.trans hwindows))

/-- A request about the pointer is carried out by a seat, or does not get so far. -/
def Steered (b b' : Broker) : Prop :=
  b' = b ∨ ∃ id seat seat', b.seats.get? id = some seat ∧ seat.Undisturbed seat' ∧
    b' = { b with seats := b.seats.set id seat' }

theorem Steered.moves (h : Steered b b') : Moves S b b' := by
  rcases h with rfl | ⟨id, seat, seat', hseat, same, rfl⟩
  · exact .refl
  · exact .single (.proceed hseat same.toKeeps)

theorem onClipCursor_steered {requestId : UInt32} {rect : Option Rect} {r : Response}
    (h : (b.onClipCursor S c requestId rect).Yields (r, b')) : Steered b b' := by
  unfold onClipCursor at h
  split at h
  · cases h.of_pure
    exact .inl rfl
  · dsimp only at h
    split at h
    · cases h.of_pure
      exact .inl rfl
    · next hworks =>
      obtain ⟨-, hseat, -⟩ := workingSeat_eq_ok hworks
      obtain ⟨⟨result, b₁⟩, hcarry, h⟩ := h.of_bind
      cases h.of_pure
      obtain ⟨seat₁, seat', hclip, flushed, rfl⟩ := carryOut_yields hcarry
      exact .inr ⟨_, _, seat', hseat, (Seat.clip_undisturbed hclip).trans flushed, rfl⟩

theorem onSetCursorPos_steered {requestId : UInt32} {x y : Int32} {r : Response}
    (h : (b.onSetCursorPos S c requestId x y).Yields (r, b')) : Steered b b' := by
  unfold onSetCursorPos at h
  split at h
  · cases h.of_pure
    exact .inl rfl
  · next hworks =>
    obtain ⟨-, hseat, -⟩ := workingSeat_eq_ok hworks
    obtain ⟨⟨result, b₁⟩, hcarry, h⟩ := h.of_bind
    cases h.of_pure
    obtain ⟨seat₁, seat', hwarp, flushed, rfl⟩ := carryOut_yields hcarry
    exact .inr ⟨_, _, seat', hseat, (Seat.warp_undisturbed hwarp).trans flushed, rfl⟩

/-- An event is handled by its seat if that is there. What the seat delivers is
addressed in the state after the event. -/
theorem dispatch_yields {event : Event} {out : List Outbound}
    (h : (b.dispatch S id event).Yields (out, b')) :
    (b.seats.get? id = none ∧ out = [] ∧ b' = b) ∨
      ∃ seat seat' deliveries, b.seats.get? id = some seat ∧
        (seat.dispatch S (b.virtualScreen seat) event).Yields (seat', deliveries) ∧
        out = b'.route id deliveries ∧
        b' = if seat'.failed then { b with seats := b.seats.set id seat' }.markFailed id
          else { b with seats := b.seats.set id seat' } := by
  unfold dispatch at h
  split at h
  · next hnone =>
    cases h.of_pure
    exact .inl ⟨hnone, rfl, rfl⟩
  · next seat hseat =>
    obtain ⟨⟨seat', deliveries⟩, hdispatch, h⟩ := h.of_bind
    obtain ⟨rfl, rfl⟩ := Prod.mk.inj h.of_pure
    exact .inr ⟨seat, seat', deliveries, hseat, hdispatch, rfl, rfl⟩

/-- In each state of the display servers the broker does with an event what its seat does, and
overflows where that does. -/
theorem dispatch_run (hseat : b.seats.get? id = some seat) (event : Event) (w : World σ) :
    ((b.dispatch S id event).run w).1 =
      ((seat.dispatch S (b.virtualScreen seat) event).run w).1.map fun (seat', deliveries) =>
        let b' := if seat'.failed then { b with seats := b.seats.set id seat' }.markFailed id
          else { b with seats := b.seats.set id seat' }
        (b'.route id deliveries, b') := by
  unfold dispatch
  rw [hseat]
  dsimp only
  rw [ExceptT.run_bind, Talk.bind_apply]
  cases ((seat.dispatch S (b.virtualScreen seat) event).run w).1 <;> rfl

theorem dispatch_moves {event : Event} {out : List Outbound}
    (h : (b.dispatch S id event).Yields (out, b')) : Moves S b b' := by
  rcases dispatch_yields h with ⟨-, -, rfl⟩ | ⟨seat, seat', deliveries, hseat, hdispatch, -, rfl⟩
  · exact .refl
  · -- a seat that has failed by now is cut off from its display
    have went : Move S b { b with seats := b.seats.set id seat' } :=
      .proceed hseat (Seat.dispatch_keeps hdispatch)
    split
    · exact .head went (.single (.fail id))
    · exact .single went

/-! ## Registrations -/

/-- A request to register a window is granted or refused by the server, or the answer
says that it did not get so far. -/
theorem onStartInput_yields {requestId : UInt32} {r : Response}
    (h : (b.onStartInput S c requestId window handle).Yields (r, b')) :
    (r.status ≠ .ok ∧ Moves S b b') ∨
      (r = .failure requestId "request_failed" ∧ ∃ id, Withdrawal b b' c id window handle) ∨
      (r = { id := requestId } ∧ ∃ id, Registration b b' c id window handle) := by
  unfold onStartInput at h
  split at h
  · cases h.of_pure
    exact .inl ⟨nofun, .refl⟩
  · split at h
    · next hnone =>
      cases h.of_pure
      exact .inl ⟨workingSeat_eq_error hnone, .refl⟩
    · next id screen seat hworks =>
      obtain ⟨hc, hseat, hlive⟩ := workingSeat_eq_ok hworks
      obtain ⟨⟨result, b₁⟩, hcarry, hanswer⟩ := h.of_bind
      obtain ⟨seat₁, seat', hstart, flushed, rfl⟩ := carryOut_yields hcarry
      -- the flush at the end may fail the seat, which does not make the answer another one
      have continues : seat.Continues seat' :=
        (Seat.startInput_continues hstart).trans flushed.toContinues
      rcases Seat.startInput_yields hstart with
        ⟨e, rfl, rfl⟩ | ⟨-, windows, hinsert, ⟨rfl, rfl⟩ | ⟨refusal, rfl, rfl⟩⟩
      · cases hanswer.of_pure
        exact .inl ⟨nofun, .single (.proceed hseat flushed.toKeeps)⟩
      · cases hanswer.of_pure
        have hwindows : seat'.windows = windows := flushed.windows
        exact .inr (.inr
          ⟨rfl, id, hc, seat, seat', hseat, hlive, continues, hwindows ▸ hinsert, rfl⟩)
      · cases hanswer.of_pure
        exact .inr (.inl
          ⟨rfl, id, hc, seat, seat', windows, hseat, continues, hinsert, flushed.windows, rfl⟩)

/-- The step grants a client the registration of a window. -/
def Step.Grants (s : Step) (c : ClientId) (id : SeatId) (window : WindowId)
    (handle : Handle) : Prop :=
  s.before.seatOf c = some id ∧
    ∃ requestId, s.action = .message c (.startInput requestId window handle) ∧
      s.answer = some (.response { id := requestId })

theorem Step.Grants.unique {s : Step} (h : s.Grants c id window handle)
    (h' : s.Grants c' id' window' handle') :
    c = c' ∧ id = id' ∧ window = window' ∧ handle = handle' := by
  obtain ⟨hid, requestId, haction, -⟩ := h
  obtain ⟨hid', requestId', haction', -⟩ := h'
  rw [haction] at haction'
  cases haction'
  rw [hid] at hid'
  cases hid'
  exact ⟨rfl, rfl, rfl, rfl⟩

/-- The display server refuses a client the registration of a window. -/
def Step.Withdraws (s : Step) (c : ClientId) (id : SeatId) (window : WindowId)
    (handle : Handle) : Prop :=
  s.before.seatOf c = some id ∧
    ∃ requestId, s.action = .message c (.startInput requestId window handle) ∧
      s.answer = some (.response (.failure requestId "request_failed"))

theorem Step.Withdraws.not_grants {s : Step} (h : s.Withdraws c id window handle) :
    ¬s.Grants c' id' window' handle' := by
  rintro ⟨-, _, -, hgranted⟩
  obtain ⟨-, _, -, hanswer⟩ := h
  rw [hanswer] at hgranted
  cases hgranted

/-! ## All steps -/

/-- A message changes the broker by moves, unless it asks for a registration that is
granted, or refused by the server. -/
theorem handle_yields {m answer : Message} {out : List Outbound}
    (h : (b.handle S c m).Yields (answer, out, b')) :
    (Moves S b b' ∧ ∀ requestId window handle, m = .startInput requestId window handle →
      answer ≠ .response { id := requestId }) ∨
      ∃ requestId id window handle, m = .startInput requestId window handle ∧
        (answer = .response (.failure requestId "request_failed") ∧
            Withdrawal b b' c id window handle ∨
          answer = .response { id := requestId } ∧ Registration b b' c id window handle) := by
  cases m with
  | hello requestId version role =>
    cases h.of_pure
    exact .inl ⟨onHello_moves requestId version, nofun⟩
  | connect requestId display => exact .inl ⟨onConnect_moves h, nofun⟩
  | startInput requestId window handle =>
    obtain ⟨⟨r, b₁⟩, hstart, h⟩ := h.of_bind
    cases h.of_pure
    -- the answer of a granted registration has the status that the others lack
    rcases onStartInput_yields hstart with
      ⟨hstatus, moves⟩ | ⟨rfl, id, withdrawn⟩ | ⟨rfl, id, registered⟩
    · refine .inl ⟨moves, ?_⟩
      rintro requestId' window' handle' heq hanswer
      cases heq
      cases hanswer
      exact hstatus rfl
    · exact .inr ⟨requestId, id, window, handle, rfl, .inl ⟨rfl, withdrawn⟩⟩
    · exact .inr ⟨requestId, id, window, handle, rfl, .inr ⟨rfl, registered⟩⟩
  | stopInput requestId window =>
    obtain ⟨⟨r, b₁⟩, hstop, h⟩ := h.of_bind
    cases h.of_pure
    exact .inl ⟨onStopInput_moves hstop, nofun⟩
  | clipCursor requestId rect =>
    obtain ⟨⟨r, b₁⟩, hclip, h⟩ := h.of_bind
    cases h.of_pure
    exact .inl ⟨(onClipCursor_steered hclip).moves, nofun⟩
  | setCursorPos requestId x y =>
    obtain ⟨⟨r, b₁⟩, hwarp, h⟩ := h.of_bind
    cases h.of_pure
    exact .inl ⟨(onSetCursorPos_steered hwarp).moves, nofun⟩
  | getTables | listLayouts | helloAck | input | languageChange | lockState | response =>
    cases h.of_pure
    exact .inl ⟨.refl, nofun⟩

theorem Step.Possible.cases {s : Step} (possible : s.Possible S) :
    (Moves S s.before s.after ∧ ∀ c id window handle, ¬s.Grants c id window handle) ∨
      (∃ c id window handle, s.Withdraws c id window handle ∧
        Withdrawal s.before s.after c id window handle) ∨
      ∃ c id window handle, s.Grants c id window handle ∧
        Registration s.before s.after c id window handle := by
  obtain ⟨before, action, answer, out, after⟩ := s
  cases action with
  | message c m =>
    obtain ⟨⟨answer', out', b₁⟩, hhandle, h⟩ := Checked.Yields.of_bind possible
    cases h.of_pure
    rcases handle_yields hhandle.of_talk with ⟨moves, refused⟩ |
      ⟨requestId, id, window, handle, rfl, ⟨rfl, withdrawn⟩ | ⟨rfl, registered⟩⟩
    · refine .inl ⟨moves, ?_⟩
      rintro c' id window handle ⟨-, requestId, haction, hanswer⟩
      cases haction
      cases hanswer
      exact refused requestId window handle rfl rfl
    · exact .inr (.inl
        ⟨c, id, window, handle, ⟨withdrawn.1, requestId, rfl, rfl⟩, withdrawn⟩)
    · exact .inr (.inr
        ⟨c, id, window, handle, ⟨registered.1, requestId, rfl, rfl⟩, registered⟩)
  | event id e =>
    obtain ⟨⟨out', b₁⟩, hdispatch, h⟩ := Checked.Yields.of_bind possible
    cases h.of_pure
    refine .inl ⟨dispatch_moves hdispatch, ?_⟩
    rintro c id window handle ⟨-, _, haction, -⟩
    cases haction
  | failure id =>
    obtain rfl : after = before.markFailed id := congrArg (·.2.2) (Checked.Yields.of_pure possible)
    refine .inl ⟨.single (.fail id), ?_⟩
    rintro c id window handle ⟨-, _, haction, -⟩
    cases haction
  | departure c =>
    obtain ⟨b₁, hremove, h⟩ := Checked.Yields.of_bind possible
    cases h.of_pure
    refine .inl ⟨removeClient_moves hremove.of_talk, ?_⟩
    rintro c id window handle ⟨-, _, haction, -⟩
    cases haction

/-- What moves and registrations, granted or refused, keep holds in every reachable
state. -/
theorem Reachable.of_moves {I : Broker → Prop} (reachable : Reachable S b)
    (hstart : ∀ config, I { config }) (hmove : ∀ b b', I b → Move S b b' → I b')
    (hwithdraw : ∀ b b' c id window handle, I b → Withdrawal b b' c id window handle → I b')
    (hregister : ∀ b b' c id window handle, I b → Registration b b' c id window handle → I b') :
    I b := by
  refine reachable.invariant hstart fun s hbefore possible => ?_
  rcases possible.cases with
    ⟨moves, -⟩ | ⟨c, id, window, handle, -, withdrawn⟩ | ⟨c, id, window, handle, -, registered⟩
  · exact moves.invariant hbefore hmove
  · exact hwithdraw _ _ _ _ _ _ hbefore withdrawn
  · exact hregister _ _ _ _ _ _ hbefore registered

end Broker

end InputBridge
