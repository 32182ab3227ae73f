-- SUMMARY: Entries of clients come and go by their own messages and departures, and nothing outlasts them.
import InputBridge.Proofs.Broker.Answers

/-!
# Whom the broker knows

A client is entered in the list of clients by a message of its own and taken off by its
departure, and nothing else changes its entry. Windows, handles and messages belong to clients
that are listed, and seats are kept for them only: without clients there is nothing.
-/

namespace InputBridge

namespace Broker

variable {σ : Type} {S : DisplayServer σ} {b b' : Broker} {c c' : ClientId} {id : SeatId}
  {window : WindowId} {handle : Handle} {out : List Outbound}

/-! ## Entries -/

/-- Whoever detaches is listed without a seat afterwards, if at all. -/
theorem detach_clients (h : (b.detach S c).Yields b') :
    b'.clients = b.clients ∨ b'.clients = b.clients.insert c none := by
  rcases detach_yields h with ⟨-, rfl⟩ | ⟨id, b₁, seats, seats', last, -, hstop, -, -, rfl⟩
  · exact .inl rfl
  · obtain ⟨b₂, -, -, rfl⟩ := stopWindows_moves hstop
    exact .inr rfl

theorem onStartInput_clients {requestId : UInt32} {r : Response}
    (h : (b.onStartInput S c requestId window handle).Yields (r, b')) : b'.clients = b.clients := by
  unfold onStartInput at h
  split at h
  · cases h.of_pure
    rfl
  split at h
  · cases h.of_pure
    rfl
  · obtain ⟨⟨result, b₁⟩, hcarry, h⟩ := h.of_bind
    obtain ⟨-, seat', -, -, rfl⟩ := carryOut_yields hcarry
    cases result with
    | ok _ =>
      cases h.of_pure
      exact clients_ownWindow
    | error e =>
      cases h.of_pure
      rfl

theorem onStopInput_clients {requestId : UInt32} {r : Response}
    (h : (b.onStopInput S c requestId window).Yields (r, b')) : b'.clients = b.clients := by
  unfold onStopInput at h
  split at h
  · cases h.of_pure
    rfl
  split at h
  · cases h.of_pure
    rfl
  dsimp only at h
  split at h
  · cases h.of_pure
    exact clients_forgetWindow
  · obtain ⟨⟨old, b₁⟩, hcarry, h⟩ := h.of_bind
    obtain ⟨-, seat', -, -, rfl⟩ := carryOut_yields hcarry
    cases h.of_pure
    exact clients_forgetWindow

theorem Steered.clients (h : Steered b b') : b'.clients = b.clients := by
  rcases h with rfl | ⟨id, seat, seat', -, -, rfl⟩ <;> rfl

theorem onConnect_clients {requestId : UInt32} {display : String} {answer : Message}
    (h : (b.onConnect S c requestId display).Yields (answer, out, b')) (hne : c ≠ c') :
    b'.clients.get? c' = b.clients.get? c' := by
  rcases onConnect_yields h with ⟨-, -, -, rfl⟩ | ⟨-, r, hattach, -⟩
  · rfl
  obtain ⟨b₁, hdetach, htaken⟩ := attach_yields hattach
  have detached : b₁.clients.get? c' = b.clients.get? c' := by
    rcases detach_clients hdetach with hsame | hsame
    · rw [hsame]
    · rw [hsame, Assoc.get?_insert, if_neg hne]
  rcases htaken with ⟨e, -, rfl⟩ | ⟨id, seats, -, -, rfl⟩
  · exact detached
  · rw [← detached]
    exact (Assoc.get?_insert ..).trans (if_neg hne)

theorem onHello_clients (requestId version : UInt32) (hne : c ≠ c') :
    (b.onHello c requestId version).2.clients.get? c' = b.clients.get? c' := by
  unfold onHello addClient
  split
  · rfl
  split
  · rfl
  split
  · rfl
  · exact (Assoc.get?_insert ..).trans (if_neg hne)

/-- A message changes no entry but that of the client it comes from. -/
theorem handle_clients {m answer : Message} (h : (b.handle S c m).Yields (answer, out, b'))
    (hne : c ≠ c') : b'.clients.get? c' = b.clients.get? c' := by
  cases m with
  | hello requestId version role =>
    cases h.of_pure
    exact onHello_clients requestId version hne
  | connect requestId display => exact onConnect_clients h hne
  | startInput requestId window handle =>
    obtain ⟨⟨r, b₁⟩, hstart, h⟩ := h.of_bind
    cases h.of_pure
    rw [onStartInput_clients hstart]
  | stopInput requestId window =>
    obtain ⟨⟨r, b₁⟩, hstop, h⟩ := h.of_bind
    cases h.of_pure
    rw [onStopInput_clients hstop]
  | clipCursor requestId rect =>
    obtain ⟨⟨r, b₁⟩, hclip, h⟩ := h.of_bind
    cases h.of_pure
    rw [(onClipCursor_steered hclip).clients]
  | setCursorPos requestId x y =>
    obtain ⟨⟨r, b₁⟩, hwarp, h⟩ := h.of_bind
    cases h.of_pure
    rw [(onSetCursorPos_steered hwarp).clients]
  | getTables | listLayouts | helloAck | input | languageChange | lockState | response =>
    cases h.of_pure
    rfl

theorem removeClient_clients (h : (b.removeClient S c).Yields b') :
    b'.clients.get? c' = if c = c' then none else b.clients.get? c' := by
  unfold removeClient at h
  obtain ⟨b₁, hdetach, h⟩ := h.of_bind
  cases h.of_pure
  rw [Assoc.get?_erase]
  split
  · rfl
  · next hne =>
    rcases detach_clients hdetach with hsame | hsame
    · rw [hsame]
    · rw [hsame, Assoc.get?_insert, if_neg hne]

/-! ## Steps -/

/-- Only its own messages enter a client. -/
theorem Step.Possible.enters {s : Step} (possible : s.Possible S)
    (hbefore : s.before.clients.get? c = none) (hafter : s.after.clients.get? c ≠ none) :
    ∃ m, s.action = .message c m := by
  cases haction : s.action with
  | message c' m =>
    obtain ⟨answer, -, hhandle⟩ := possible.of_message haction
    -- the message of another client changes no entry but that one's
    by_cases heq : c' = c
    · exact ⟨m, by rw [heq]⟩
    · rw [handle_clients hhandle heq] at hafter
      exact absurd hbefore hafter
  | event id e =>
    rcases dispatch_yields (possible.of_event haction) with
      ⟨-, -, hsame⟩ | ⟨seat, seat', deliveries, -, -, -, hsame⟩
    · rw [hsame] at hafter
      exact absurd hbefore hafter
    · have hclients : s.after.clients = s.before.clients := by
        rw [hsame]
        split <;> rfl
      rw [hclients] at hafter
      exact absurd hbefore hafter
  | failure id =>
    rw [(possible.of_failure haction).2] at hafter
    exact absurd hbefore hafter
  | departure c' =>
    rw [removeClient_clients (possible.of_departure haction).2, hbefore, ite_self] at hafter
    exact absurd rfl hafter

theorem Step.Possible.clients_of_departure {s : Step} (possible : s.Possible S)
    (haction : s.action = .departure c) : s.after.clients.get? c = none := by
  rw [removeClient_clients (possible.of_departure haction).2, if_pos rfl]

/-! ## Clients that are not known -/

/-- Nothing that the broker keeps is of the client. -/
structure Forgets (b : Broker) (c : ClientId) : Prop where
  clients : b.clients.get? c = none
  windows : ∀ id window handle, b.windows.get? (id, window) ≠ some (c, handle)
  handles : ∀ id handle, b.handles.get? (id, handle) ≠ some c

theorem Owned.forgets (owned : b.Owned) (hc : b.clients.get? c = none) : b.Forgets c := by
  have hseat : b.seatOf c = none := by
    rw [seatOf, hc]
    rfl
  refine ⟨hc, fun _ _ _ => owned.ne_of_seatOf_eq_none hseat, fun id handle hhandle => ?_⟩
  rw [owned.seatOf_of_handles hhandle] at hseat
  cases hseat

/-- Without clients the broker keeps nothing at all. -/
theorem Reachable.nothing_left (reachable : Reachable S b) (hnone : ∀ c, b.clients.get? c = none) :
    b.clients = [] ∧ b.windows = [] ∧ b.handles = [] ∧ b.seats.seats = [] := by
  -- everything that is kept has an owner or a user, and there is none
  have forgets : ∀ c, b.Forgets c := fun c => reachable.owned.forgets (hnone c)
  refine ⟨Assoc.eq_nil_of_get? hnone, ?_, ?_, ?_⟩
  · refine Assoc.eq_nil_of_get? fun (id, window) => ?_
    refine Option.eq_none_iff_forall_ne_some.mpr fun (c, handle) => ?_
    exact (forgets c).windows id window handle
  · refine Assoc.eq_nil_of_get? fun (id, handle) => ?_
    exact Option.eq_none_iff_forall_ne_some.mpr fun c => (forgets c).handles id handle
  · -- a seat is there only for those who are attached to it
    refine Assoc.eq_nil_of_get? fun id => ?_
    have absent : b.seats.get? id = none := by
      refine Option.not_isSome_iff_eq_none.mp fun hsome => ?_
      have hcount := (reachable.balanced.seats.present id).mp hsome
      rw [headcount, Assoc.eq_nil_of_get? hnone, List.countP_nil] at hcount
      exact absurd hcount (Nat.not_succ_le_zero 0)
    exact Option.map_eq_none_iff.mp absent

end Broker

end InputBridge
