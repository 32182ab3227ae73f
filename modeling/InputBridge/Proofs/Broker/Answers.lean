-- SUMMARY: Every message is answered under its id, and what is sent unasked goes to attached clients.
import InputBridge.Proofs.Broker.Recipients
import InputBridge.Proofs.Broker.Serving
import InputBridge.Wire.Decode

/-!
# Answers and pushes

Every message has its answer: a hello is acknowledged, and what answers anything else has the
id of it. What the broker sends unasked can be told from answers, and goes to clients that
are attached to a seat.
-/

namespace InputBridge

/-- The message is one that the broker sends unasked. -/
def Message.isPush : Message → Bool
  | .input .. | .languageChange .. | .lockState .. => true
  | _ => false

/-- What answers a payload. -/
def Payload.AnsweredBy : Payload → Message → Prop
  | .message (.hello ..), a => ∃ status error, a = .helloAck 0 status error
  | .message m, a => ∃ r : Response, r.id = m.id ∧ a = .response r
  | .unknown e, a => a = .response (.failure e.id "unknown_type")
  | .malformed, _ => False

theorem Payload.AnsweredBy.isPush {p : Payload} {a : Message} (h : p.AnsweredBy a) :
    a.isPush = false := by
  unfold AnsweredBy at h
  split at h
  · obtain ⟨status, error, rfl⟩ := h
    rfl
  · obtain ⟨r, -, rfl⟩ := h
    rfl
  · subst h
    rfl
  · exact h.elim

theorem Delivery.isPush_message (d : Delivery) : d.message.isPush = true := by
  cases d <;> rfl

namespace Broker

variable {σ : Type} {S : DisplayServer σ} {b b' : Broker} {c : ClientId} {id : UInt32}
  {window : WindowId} {handle : Handle} {out : List Outbound} {r : Response}

/-! ## Ids -/

theorem id_of_workingSeat (h : b.workingSeat id c = .error r) : r.id = id := by
  unfold workingSeat at h
  split at h
  · cases h
    rfl
  split at h
  · cases h
    rfl
  split at h
  · cases h
    rfl
  · cases h

theorem id_answerOf (id : UInt32) (result : Except SeatError Unit) :
    (answerOf id result).id = id := by
  cases result <;> rfl

theorem onHello_answer (requestId version : UInt32) :
    ∃ status error, (b.onHello c requestId version).1 = .helloAck 0 status error := by
  unfold onHello
  split
  · exact ⟨_, _, rfl⟩
  split
  · exact ⟨_, _, rfl⟩
  · exact ⟨_, _, rfl⟩

theorem onConnect_answer {display : String} {answer : Message}
    (h : (b.onConnect S c id display).Yields (answer, out, b')) :
    ∃ r : Response, r.id = id ∧ answer = .response r := by
  rcases onConnect_yields h with ⟨-, rfl, -⟩ | ⟨-, r, -, hwelcome⟩
  · exact ⟨_, rfl, rfl⟩
  · cases hwelcome with
    | refused => exact ⟨_, rfl, rfl⟩
    | connected => exact ⟨_, rfl, rfl⟩

theorem onStartInput_answer (h : (b.onStartInput S c id window handle).Yields (r, b')) :
    r.id = id := by
  unfold onStartInput at h
  split at h
  · cases h.of_pure
    rfl
  split at h
  · next hnone =>
    cases h.of_pure
    exact id_of_workingSeat hnone
  · obtain ⟨⟨result, b₁⟩, -, h⟩ := h.of_bind
    cases result <;> cases h.of_pure <;> rfl

theorem onStopInput_answer (h : (b.onStopInput S c id window).Yields (r, b')) : r.id = id := by
  unfold onStopInput at h
  split at h
  · cases h.of_pure
    rfl
  split at h
  · cases h.of_pure
    rfl
  dsimp only at h
  split at h
  · cases h.of_pure
    rfl
  · obtain ⟨⟨old, b₁⟩, -, h⟩ := h.of_bind
    cases h.of_pure
    rfl

theorem onGetTables_answer (layout : UInt32) : (b.onGetTables c id layout).id = id := by
  unfold onGetTables
  split
  · next hnone => exact id_of_workingSeat hnone
  · split <;> rfl

theorem onListLayouts_answer : (b.onListLayouts c id).id = id := by
  unfold onListLayouts
  split
  · next hnone => exact id_of_workingSeat hnone
  · rfl

theorem onClipCursor_answer {rect : Option Rect}
    (h : (b.onClipCursor S c id rect).Yields (r, b')) : r.id = id := by
  unfold onClipCursor at h
  split at h
  · cases h.of_pure
    rfl
  dsimp only at h
  split at h
  · next hnone =>
    cases h.of_pure
    exact id_of_workingSeat hnone
  · obtain ⟨⟨result, b₁⟩, -, h⟩ := h.of_bind
    cases h.of_pure
    exact id_answerOf id result

theorem onSetCursorPos_answer {x y : Int32}
    (h : (b.onSetCursorPos S c id x y).Yields (r, b')) : r.id = id := by
  unfold onSetCursorPos at h
  split at h
  · next hnone =>
    cases h.of_pure
    exact id_of_workingSeat hnone
  · obtain ⟨⟨result, b₁⟩, -, h⟩ := h.of_bind
    cases h.of_pure
    exact id_answerOf id result

/-! ## Objections -/

theorem status_of_workingSeat (h : b.workingSeat id c = .error r) :
    r.status ≠ .invalidParameter := by
  unfold workingSeat at h
  split at h
  · cases h
    exact nofun
  split at h
  · cases h
    exact nofun
  split at h
  · cases h
    exact nofun
  · cases h

theorem status_answerOf (id : UInt32) (result : Except SeatError Unit) :
    (answerOf id result).status ≠ .invalidParameter := by
  cases result <;> exact nofun

/-- Only an empty rectangle is objected to. -/
theorem onClipCursor_status {rect : Option Rect}
    (sized : ∀ r, rect = some r → 0 < r.width ∧ 0 < r.height)
    (h : (b.onClipCursor S c id rect).Yields (r, b')) : r.status ≠ .invalidParameter := by
  unfold onClipCursor at h
  split at h
  · next hempty =>
    -- whoever objects has a rectangle without area before it
    obtain ⟨given, hgiven, hempty⟩ := (Option.any_eq_true _ _).mp hempty
    obtain ⟨hwidth, hheight⟩ := sized given hgiven
    simp only [Bool.or_eq_true, decide_eq_true_eq] at hempty
    omega
  dsimp only at h
  split at h
  · next hnone =>
    cases h.of_pure
    exact status_of_workingSeat hnone
  · obtain ⟨⟨result, b₁⟩, -, h⟩ := h.of_bind
    cases h.of_pure
    exact status_answerOf id result

/-! ## Answers -/

theorem handle_answeredBy {m answer : Message}
    (h : (b.handle S c m).Yields (answer, out, b')) : (Payload.message m).AnsweredBy answer := by
  cases m with
  | hello requestId version role =>
    cases h.of_pure
    exact onHello_answer requestId version
  | connect requestId display => exact onConnect_answer h
  | startInput requestId window handle =>
    obtain ⟨⟨r, b₁⟩, hstart, h⟩ := h.of_bind
    cases h.of_pure
    exact ⟨r, onStartInput_answer hstart, rfl⟩
  | stopInput requestId window =>
    obtain ⟨⟨r, b₁⟩, hstop, h⟩ := h.of_bind
    cases h.of_pure
    exact ⟨r, onStopInput_answer hstop, rfl⟩
  | getTables requestId layout =>
    cases h.of_pure
    exact ⟨_, onGetTables_answer layout, rfl⟩
  | listLayouts requestId =>
    cases h.of_pure
    exact ⟨_, onListLayouts_answer, rfl⟩
  | clipCursor requestId rect =>
    obtain ⟨⟨r, b₁⟩, hclip, h⟩ := h.of_bind
    cases h.of_pure
    exact ⟨r, onClipCursor_answer hclip, rfl⟩
  | setCursorPos requestId x y =>
    obtain ⟨⟨r, b₁⟩, hwarp, h⟩ := h.of_bind
    cases h.of_pure
    exact ⟨r, onSetCursorPos_answer hwarp, rfl⟩
  | helloAck | input | languageChange | lockState =>
    cases h.of_pure
    exact ⟨_, rfl, rfl⟩
  | response r =>
    cases h.of_pure
    exact ⟨.failure r.id "unknown_type", rfl, rfl⟩

/-! ## Steps -/

theorem Step.Possible.answeredBy {s : Step} {m a : Message} (possible : s.Possible S)
    (haction : s.action = .message c m) (hanswer : s.answer = some a) :
    (Payload.message m).AnsweredBy a := by
  obtain ⟨answer, hsome, hhandle⟩ := possible.of_message haction
  obtain rfl : answer = a := Option.some.inj (hsome.symm.trans hanswer)
  exact handle_answeredBy hhandle

/-- Events and failures keep all clients at their seats, and what is sent then is addressed
by the seat. -/
theorem Step.Possible.served_or_routes {s : Step} (possible : s.Possible S) :
    (∃ c, ((∃ m, s.action = .message c m) ∨ s.action = .departure c ∧ s.out = []) ∧
      Served S c s.before s.out s.after) ∨
    s.after.clients = s.before.clients ∧
      ∃ id deliveries, s.out = s.after.route id deliveries := by
  cases haction : s.action with
  | message c m =>
    obtain ⟨answer, -, hhandle⟩ := possible.of_message haction
    exact .inl ⟨c, .inl ⟨m, rfl⟩, handle_served hhandle⟩
  | event id e =>
    rcases dispatch_yields (possible.of_event haction) with
      ⟨-, hout, hafter⟩ | ⟨seat, seat', deliveries, -, -, hout, hafter⟩
    · exact .inr ⟨by rw [hafter], id, [], hout⟩
    -- marking the seat as failed leaves the clients where they are
    · refine .inr ⟨?_, id, deliveries, hout⟩
      rw [hafter]
      split <;> rfl
  | failure id =>
    obtain ⟨hout, hafter⟩ := possible.of_failure haction
    exact .inr ⟨by rw [hafter]; rfl, id, [], hout⟩
  | departure c =>
    obtain ⟨hout, hremove⟩ := possible.of_departure haction
    exact .inl ⟨c, .inr ⟨rfl, hout⟩, by rw [hout]; exact removeClient_served hremove⟩

/-- What is sent unasked is a push, for a client that is at a seat by then. -/
theorem Step.Possible.of_mem_out {s : Step} {o : Outbound} (reachable : Reachable S s.after)
    (possible : s.Possible S) (ho : o ∈ s.out) :
    o.message.isPush = true ∧ s.after.seatOf o.target ≠ none := by
  rcases possible.served_or_routes with ⟨c, -, served⟩ | ⟨-, id, deliveries, hout⟩
  -- a client that has taken a seat is told its lock keys, and nothing else is sent with an answer
  · rcases served.own with ⟨hout, -⟩ | ⟨id, seat, hc, -, hout⟩
    · rw [hout] at ho
      cases ho
    · rw [hout] at ho
      cases List.mem_singleton.mp ho
      exact ⟨rfl, by rw [hc]; exact nofun⟩
  · rw [hout] at ho
    refine ⟨?_, ?_⟩
    · obtain ⟨d, -, ho⟩ := List.mem_flatMap.mp ho
      obtain ⟨target, -, rfl⟩ := List.mem_map.mp ho
      have hmessage : (s.after.address id d).2 = d.message := address_snd ..
      exact hmessage ▸ d.isPush_message
    · rw [seatOf_target_of_mem_route reachable.owned reachable.balanced.clients ho]
      exact nofun

/-- Only a message of its own brings a client to a seat. -/
theorem Step.Possible.seatOf {s : Step} (possible : s.Possible S)
    (hc : s.after.seatOf c ≠ none) :
    s.before.seatOf c ≠ none ∨ ∃ m, s.action = .message c m := by
  rcases possible.served_or_routes with ⟨c', haction, served⟩ | ⟨hclients, -⟩
  · by_cases heq : c = c'
    · subst heq
      rcases haction with hmessage | ⟨-, hout⟩
      · exact .inr hmessage
      · rcases served.own with ⟨-, hsame | hnone⟩ | ⟨id, seat, -, -, hone⟩
        · exact .inl (hsame ▸ hc)
        · exact absurd hnone hc
        -- a client that leaves is told nothing, so it has not taken a seat
        · rw [hout] at hone
          cases hone
    · exact .inl (served.others c heq ▸ hc)
  · rw [Broker.seatOf, hclients] at hc
    exact .inl hc

end Broker

end InputBridge
