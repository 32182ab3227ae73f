-- SUMMARY: A client is listed only after one hello with id 0 and the version of the protocol.
import InputBridge.Proofs.Daemon.Departures

/-!
# The handshake

A client begins with a hello. The session sees to it that nothing else goes to the broker
first, the broker looks at the hello's id and version, and the session goes on only after the
answer that accepts it. Whoever begins in another way is never listed and leads to no request
but a hello that is rejected.
-/

namespace InputBridge

/-- What a hello is answered with: it is accepted, or rejected for a reason. -/
def Acknowledged (id version : UInt32) (a : Message) : Prop :=
  (id = 0 ∧ version = protocolVersion) ∧ a = .helloAck 0 .ok none ∨
    ¬(id = 0 ∧ version = protocolVersion) ∧ ∃ reason, a = .helloAck 0 .error (some reason)

namespace Broker

/-- A hello that is rejected changes nothing. -/
theorem onHello_cases (b : Broker) (c : ClientId) (id version : UInt32) :
    Acknowledged id version (b.onHello c id version).1 ∧
      (id = 0 ∧ version = protocolVersion ∨ (b.onHello c id version).2 = b) := by
  unfold onHello
  by_cases hid : id = 0
  · by_cases hversion : version = protocolVersion
    · rw [if_neg (not_not.mpr hid), if_neg (not_not.mpr hversion)]
      exact ⟨.inl ⟨⟨hid, hversion⟩, rfl⟩, .inl ⟨hid, hversion⟩⟩
    · rw [if_neg (not_not.mpr hid), if_pos hversion]
      exact ⟨.inr ⟨fun h => hversion h.2, _, rfl⟩, .inr rfl⟩
  · rw [if_pos hid]
    exact ⟨.inr ⟨fun h => hid h.1, _, rfl⟩, .inr rfl⟩

theorem handle_hello {σ : Type} {S : DisplayServer σ} {b b' : Broker} {c : ClientId}
    {id version : UInt32} {role : Role} {a : Message} {out : List Outbound}
    (h : (b.handle S c (.hello id version role)).Yields (a, out, b')) :
    Acknowledged id version a ∧ (id = 0 ∧ version = protocolVersion ∨ b' = b) := by
  cases h.of_pure
  exact b.onHello_cases c id version

end Broker

namespace Daemon

variable {σ : Type} {S : DisplayServer σ} {d : Daemon} {steps : List Step} {t : Step}
  {c : ClientId} {config : BrokerConfig} {y : Traffic} {s s' : Session}
  {queue : List Message} {m a : Message}
  {taken : List (List UInt8)} {entries : List (Message × Option Message)}

/-! ## What the broker handles -/

/-- The client's request that the broker handles in a step, with the answer to it. -/
def Step.asked (t : Step) (c : ClientId) : Option (Message × Option Message) :=
  t.turn.bind fun b => match b.action with
    | .message c' m => if c' = c then some (m, b.answer) else none
    | _ => none

/-- The requests of a client that the broker handles, in their order, with the answers. -/
def asked (c : ClientId) (steps : List Step) : List (Message × Option Message) :=
  steps.filterMap (·.asked c)

theorem asked_snoc (c : ClientId) (steps : List Step) (t : Step) :
    asked c (steps ++ [t]) = asked c steps ++ (t.asked c).toList := by
  unfold asked
  rw [List.filterMap_append]
  cases h : t.asked c <;> simp [h]

theorem Step.asked_eq_some {entry : Message × Option Message} (h : t.asked c = some entry) :
    ∃ b, t.turn = some b ∧ b.action = .message c entry.1 ∧ b.answer = entry.2 := by
  obtain ⟨b, hturn, hentry⟩ := Option.bind_eq_some_iff.mp h
  split at hentry
  · next c' m haction =>
    split at hentry
    · next heq =>
      cases hentry
      exact ⟨b, hturn, heq ▸ haction, rfl⟩
    · cases hentry
  · cases hentry

theorem Step.asked_of_action {b : Broker.Step} (hturn : t.turn = some b)
    (haction : b.action = .message c m) : t.asked c = some (m, b.answer) := by
  simp [asked, hturn, haction]

/-- What is handled leaves the queue, and the answer goes to the session. -/
theorem Step.Possible.of_asked {entry : Message × Option Message} (possible : t.Possible S)
    (h : t.asked c = some entry) (hs : t.before.sessions.get? c = some s) :
    ∃ a messages out, entry.2 = some a ∧
      (t.before.broker.handle S c entry.1).Yields (a, out, t.after.broker) ∧
      t.before.queued c = entry.1 :: t.after.queued c ∧ (t.traffic c).taken = [] ∧
      t.after.sessions.get? c = some ({ s with answer := some a }.tell messages) := by
  obtain ⟨b, hturn, haction, hanswer⟩ := Step.asked_eq_some h
  obtain ⟨hpossible, hbefore, hnext, hafter⟩ := possible.of_turn hturn
  obtain ⟨a, ha, hhandle⟩ := hpossible.of_message haction
  -- what is at the head of the broker's queue is the message that was handled
  rw [haction] at hnext
  refine ⟨a, Broker.messagesFor c b.out, b.out, hanswer ▸ ha, ?_, ?_, ?_, ?_⟩
  · rw [hafter, broker_follow, ← hbefore]
    exact hhandle
  · rw [hafter, queued_of_head? hnext, if_pos rfl, follow, haction]
    dsimp only
    rw [queued_deliver, queued_change]
    rfl
  · rw [possible.traffic_of_turn hturn]
  · rw [hafter]
    simp [follow, haction, get?_deliver, get?_change, hs, ha]

theorem prefix_queued_change {c' : ClientId} {f : Session → Session} :
    d.queued c <+: (d.change c' f).queued c := by
  simp

theorem prefix_queued_onSession {c' : ClientId} {f : Session → Session × Option Message} :
    d.queued c <+: (d.onSession c' f).queued c := by
  rw [queued_onSession]
  split
  · exact List.prefix_append ..
  · exact List.prefix_refl _

/-- What is not handled stays in the queue. -/
theorem Step.Possible.queued_prefix (possible : t.Possible S) (h : t.asked c = none) :
    t.before.queued c <+: t.after.queued c := by
  cases hturn : t.turn with
  | some b =>
    obtain ⟨-, -, hnext, hafter⟩ := possible.of_turn hturn
    rw [hafter, follow]
    -- only a message of the client itself would be taken out of its queue
    cases haction : b.action with
    | message c' m =>
      rw [haction] at hnext
      have hne : c' ≠ c := by
        rintro rfl
        rw [Step.asked_of_action hturn haction] at h
        cases h
      dsimp only
      rw [queued_of_head? hnext, if_neg hne, queued_deliver, queued_change]
      exact List.prefix_refl _
    | event | failure =>
      dsimp only
      rw [queued_deliver]
      exact List.prefix_refl _
    | departure => exact List.prefix_refl _
  | none =>
    rw [possible.of_no_turn hturn]
    cases t.action with
    | arrive | hangUp | leave => exact prefix_queued_change
    | read | writeAnswer | writePush => exact prefix_queued_onSession
    | accept | report | handleRequest | handleNotice | handleDeparture =>
      exact List.prefix_refl _

/-! ## From the first frame to the answer -/

/-- The payload is a hello. -/
def IsHello (payload : List UInt8) : Prop :=
  ∃ id version role, Payload.decode payload = .message (.hello id version role)

theorem past_hello {phase : Phase} (h : phase = .ready ∨ phase = .ended) :
    phase ≠ .greeting ∧ phase ≠ .greeted := by
  rcases h with rfl | rfl <;> simp

/-- How far a client has come by its first frame. -/
inductive Entering : List (List UInt8) → List (Message × Option Message) → Session →
    List Message → Prop where
  | awaited {s : Session} (hphase : s.phase = .greeting) (hanswer : s.answer = none)
      (hwritten : s.written = []) : Entering [] [] s []
  | greeted {s : Session} {payload : List UInt8} {id version : UInt32} {role : Role}
      (hphase : s.phase = .greeted) (hanswer : s.answer = none) (hwritten : s.written = [])
      (hdecode : Payload.decode payload = .message (.hello id version role)) :
      Entering [payload] [] s [.hello id version role]
  | answered {s : Session} {payload : List UInt8} {id version : UInt32} {role : Role}
      {a : Message} (hphase : s.phase = .greeted) (hanswer : s.answer = some a)
      (hwritten : s.written = [])
      (hdecode : Payload.decode payload = .message (.hello id version role))
      (hack : Acknowledged id version a) :
      Entering [payload] [(.hello id version role, some a)] s []
  /-- The client has read that its hello is accepted, and may do as it likes. -/
  | admitted {s : Session} {taken : List (List UInt8)} {queue : List Message}
      {entries : List (Message × Option Message)} {role : Role}
      (hphase : s.phase ≠ .greeting ∧ s.phase ≠ .greeted)
      (hfirst : taken.head?.map Payload.decode = some (.message (.hello 0 protocolVersion role)))
      (hasked : entries.head? = some (.hello 0 protocolVersion role, some (.helloAck 0 .ok none)))
      (hwritten : s.written.head? = some (.helloAck 0 .ok none)) :
      Entering taken entries s queue
  /-- The client has not begun with a hello. -/
  | refused {s : Session} {taken : List (List UInt8)} (hphase : s.phase = .ended)
      (hwritten : s.written = []) (hhello : ∀ payload ∈ taken, ¬IsHello payload) :
      Entering taken [] s []
  /-- The hello is rejected, or the client has not waited for the answer. -/
  | dismissed {s : Session} {payload : List UInt8} {id version : UInt32} {role : Role}
      {a : Message} (hphase : s.phase = .ended)
      (hwritten : s.written = [] ∨ s.written = [a] ∧ ¬(id = 0 ∧ version = protocolVersion))
      (hdecode : Payload.decode payload = .message (.hello id version role))
      (hack : Acknowledged id version a) :
      Entering [payload] [(.hello id version role, some a)] s []

namespace Entering

theorem new : Entering [] [] {} [] := .awaited rfl rfl rfl

theorem congr (h : Entering taken entries s queue) (hphase : s'.phase = s.phase)
    (hanswer : s'.answer = s.answer) (hwritten : s'.written = s.written) :
    Entering taken entries s' queue := by
  cases h with
  | awaited h₁ h₂ h₃ => exact .awaited (hphase ▸ h₁) (hanswer ▸ h₂) (hwritten ▸ h₃)
  | greeted h₁ h₂ h₃ h₄ => exact .greeted (hphase ▸ h₁) (hanswer ▸ h₂) (hwritten ▸ h₃) h₄
  | answered h₁ h₂ h₃ h₄ h₅ => exact .answered (hphase ▸ h₁) (hanswer ▸ h₂) (hwritten ▸ h₃) h₄ h₅
  | admitted h₁ h₂ h₃ h₄ => exact .admitted (hphase ▸ h₁) h₂ h₃ (hwritten ▸ h₄)
  | refused h₁ h₂ h₃ => exact .refused (hphase ▸ h₁) (hwritten ▸ h₂) h₃
  | dismissed h₁ h₂ h₃ h₄ => exact .dismissed (hphase ▸ h₁) (hwritten ▸ h₂) h₃ h₄

theorem of_greeting (h : Entering taken entries s queue) (hphase : s.phase = .greeting) :
    taken = [] ∧ entries = [] ∧ queue = [] ∧ s.answer = none ∧ s.written = [] := by
  cases h with
  | awaited h₁ h₂ h₃ => exact ⟨rfl, rfl, rfl, h₂, h₃⟩
  | greeted h₁ | answered h₁ | refused h₁ | dismissed h₁ => simp [h₁] at hphase
  | admitted h₁ => exact absurd hphase h₁.1

/-- A session that waits for requests has been begun by a hello that was accepted. -/
theorem of_ready (h : Entering taken entries s queue) (hphase : s.phase = .ready)
    (payloads : List (List UInt8)) (requests : List Message)
    (hphase' : s'.phase ≠ .greeting ∧ s'.phase ≠ .greeted) (hwritten : s.written <+: s'.written) :
    Entering (taken ++ payloads) entries s' (queue ++ requests) := by
  cases h with
  -- in all other phases no requests are waited for
  | awaited h₁ | greeted h₁ | answered h₁ | refused h₁ | dismissed h₁ => simp [h₁] at hphase
  | @admitted _ _ _ _ role h₁ h₂ h₃ h₄ =>
    refine .admitted hphase' ?_ h₃ ?_
    -- what comes first was read long ago
    · cases taken with
      | nil => cases h₂
      | cons payload taken => exact h₂
    · obtain ⟨more, hmore⟩ := hwritten
      rw [← hmore, List.head?_append, h₄]
      rfl

theorem reads {payload? : Option (List UInt8)} {handed : Option Message}
    (h : Entering taken entries s queue) (reads : s.Reads payload? s' handed) :
    Entering (taken ++ payload?.toList) entries s' (queue ++ handed.toList) := by
  cases reads with
  | idle =>
    rw [Option.toList_none, List.append_nil, Option.toList_none, List.append_nil]
    exact h.congr rfl rfl rfl
  | @close reader hreading =>
    have hphase : s.phase = .greeting ∨ s.phase = .ready := by
      simpa [Session.isReading] using hreading
    rcases hphase with hphase | hphase
    -- nothing was read before the stream ended, so nothing can have been handled
    · obtain ⟨rfl, rfl, rfl, -, hwritten⟩ := h.of_greeting hphase
      exact .refused rfl hwritten (List.forall_mem_nil _)
    · exact h.of_ready hphase [] [] (past_hello (.inr rfl)) (List.prefix_refl _)
  | hello hphase htakes hdecode =>
    obtain ⟨rfl, rfl, rfl, hanswer, hwritten⟩ := h.of_greeting hphase
    exact .greeted rfl hanswer hwritten hdecode
  | request hphase htakes hdecode =>
    exact h.of_ready hphase _ _ (by simp) (List.prefix_refl _)
  | @unknown payload reader e hphase htakes hdecode =>
    rcases { s with reader }.write_cases (.response (.failure e.id "unknown_type")) .ready with
      hwrite | hwrite
    · rw [hwrite]
      exact h.of_ready hphase _ [] (past_hello (.inr rfl)) (List.prefix_refl _)
    · rw [hwrite]
      exact h.of_ready hphase _ [] (past_hello (.inl rfl)) (List.prefix_append ..)
  | @refuse payload reader hreading htakes hdecode =>
    have hphase : s.phase = .greeting ∨ s.phase = .ready := by
      simpa [Session.isReading] using hreading
    rcases hphase with hphase | hphase
    · obtain ⟨rfl, rfl, rfl, -, hwritten⟩ := h.of_greeting hphase
      refine .refused rfl hwritten (List.forall_mem_singleton.mpr ?_)
      -- a payload that is refused in this phase is no hello
      rintro ⟨id, version, role, hhello⟩
      rcases hdecode with ⟨-, hnone⟩ | hmalformed
      · exact hnone id version role hhello
      · rw [hmalformed] at hhello
        cases hhello
    · exact h.of_ready hphase _ [] (past_hello (.inr rfl)) (List.prefix_refl _)

theorem writeAnswer (h : Entering taken entries s queue) :
    Entering taken entries s.writeAnswer queue := by
  rcases s.writeAnswer_cases with hsame | ⟨a, hanswer, hasking, hwrite⟩
  · rwa [hsame]
  cases h with
  | awaited h₁ | refused h₁ | dismissed h₁ => simp [Session.isAsking, h₁] at hasking
  -- there is no answer yet that could be written
  | greeted h₁ h₂ =>
    rw [h₂] at hanswer
    cases hanswer
  | @answered _ payload id version role a' h₁ h₂ h₃ h₄ h₅ =>
    obtain rfl : a' = a := Option.some.inj (h₂.symm.trans hanswer)
    rcases hwrite with hwrite | hwrite
    · rw [hwrite]
      exact .dismissed rfl (.inl h₃) h₄ h₅
    rw [hwrite, Session.afterAnswer, if_pos h₁, h₃]
    -- the broker's answer decides whether the session goes on
    rcases h₅ with ⟨⟨rfl, rfl⟩, rfl⟩ | ⟨hbad, reason, rfl⟩
    · exact .admitted (by simp [Session.afterHello]) (congrArg some h₄) rfl rfl
    · exact .dismissed rfl (.inr ⟨rfl, hbad⟩) h₄ (.inr ⟨hbad, reason, rfl⟩)
  | @admitted _ _ _ _ role h₁ h₂ h₃ h₄ =>
    rcases hwrite with hwrite | hwrite
    · rw [hwrite]
      exact .admitted (past_hello (.inr rfl)) h₂ h₃ h₄
    -- what is written later does not change what was written first
    · rw [hwrite, Session.afterAnswer, if_neg h₁.2]
      refine .admitted (past_hello (.inl rfl)) h₂ h₃ ?_
      rw [List.head?_append, h₄]
      rfl

theorem writePush (h : Entering taken entries s queue) :
    Entering taken entries s.writePush queue := by
  rcases s.writePush_cases with hsame | ⟨m, pushes, hphase, -, hwrite | hwrite⟩
  · rwa [hsame]
  · rw [hwrite, ← List.append_nil taken, ← List.append_nil queue]
    exact h.of_ready hphase [] [] (past_hello (.inr rfl)) (List.prefix_refl _)
  · rw [hwrite, ← List.append_nil taken, ← List.append_nil queue]
    exact h.of_ready hphase [] [] (past_hello (.inl rfl)) (List.prefix_append ..)

theorem tell (h : Entering taken entries s queue) (messages : List Message) :
    Entering taken entries (s.tell messages) queue := by
  unfold Session.tell
  split
  · exact h
  · exact h.congr rfl rfl rfl

/-- Nothing that the broker does for others matters here. -/
theorem goes {queue' : List Message} (h : Entering taken entries s queue)
    (goes : Side.Goes ⟨s, queue⟩ y ⟨s', queue'⟩) (hqueued : queue <+: queue') :
    Entering (taken ++ y.taken) entries s' queue' := by
  cases goes with
  | arrive | leave =>
    rw [List.append_nil]
    exact h.congr rfl rfl rfl
  | read => exact h.reads s.reads
  | writeAnswer =>
    rw [List.append_nil]
    exact h.writeAnswer
  | writePush =>
    rw [List.append_nil]
    exact h.writePush
  -- the broker would have taken the request out of the queue, which it has not
  | answer => exact absurd hqueued.length_le (Nat.not_succ_le_self _)
  | tell =>
    rw [List.append_nil]
    exact h.tell _

/-- The first request that the broker handles is the hello. -/
theorem handle {b b' : Broker} {out : List Outbound} (h : Entering taken entries s (m :: queue))
    (hhandle : (b.handle S c m).Yields (a, out, b')) (messages : List Message) :
    Entering taken (entries ++ [(m, some a)]) ({ s with answer := some a }.tell messages)
      queue := by
  refine tell ?_ messages
  cases h with
  | @greeted _ payload id version role h₁ h₂ h₃ h₄ =>
    exact .answered h₁ rfl h₃ h₄ (Broker.handle_hello hhandle).1
  | @admitted _ _ _ _ role h₁ h₂ h₃ h₄ =>
    refine .admitted h₁ h₂ ?_ h₄
    rw [List.head?_append, h₃]
    rfl

/-- By a request that lists the client its hello is accepted. -/
theorem accepted {b b' : Broker} {out : List Outbound} (h : Entering taken entries s (m :: queue))
    (hhandle : (b.handle S c m).Yields (a, out, b')) (hbefore : b.clients.get? c = none)
    (hafter : b'.clients.get? c ≠ none) : ∃ role, (entries ++ [(m, some a)]).head? =
      some (.hello 0 protocolVersion role, some (.helloAck 0 .ok none)) := by
  cases h with
  | @greeted _ payload id version role =>
    obtain ⟨⟨⟨rfl, rfl⟩, rfl⟩ | ⟨hbad, -⟩, haccepts | rfl⟩ := Broker.handle_hello hhandle
    · exact ⟨role, rfl⟩
    -- the other cases do not enter the client into the list
    · exact absurd hbefore hafter
    · exact absurd haccepts hbad
    · exact absurd hbefore hafter
  | @admitted _ _ _ _ role _ _ hhead =>
    refine ⟨role, ?_⟩
    rw [List.head?_append, hhead]
    rfl

/-- What is handled begins with the hello that the client began with, and goes on only after
that is accepted and the client has been told. -/
theorem first_asked (h : Entering taken entries s queue) {first : Message × Option Message}
    {rest : List (Message × Option Message)} (hentries : entries = first :: rest) :
    ∃ id version role, first.1 = .hello id version role ∧
      taken.head?.map Payload.decode = some (.message (.hello id version role)) ∧
      (rest ≠ [] → id = 0 ∧ version = protocolVersion ∧
        first.2 = some (.helloAck 0 .ok none) ∧ s.written.head? = some (.helloAck 0 .ok none)) := by
  cases h with
  | awaited | greeted | refused => cases hentries
  | answered _ _ _ hdecode | dismissed _ _ hdecode =>
    -- the hello is all that was handled
    cases hentries
    exact ⟨_, _, _, rfl, congrArg some hdecode, fun hrest => absurd rfl hrest⟩
  | admitted _ hfirst hasked hwritten =>
    subst hentries
    cases hasked
    exact ⟨_, _, _, rfl, hfirst, fun _ => ⟨rfl, rfl, rfl, hwritten⟩⟩

/-- Who does not begin with a hello that is accepted is answered at most that it is rejected. -/
theorem turned_away (h : Entering taken entries s queue)
    (hfirst : ∀ role, taken.head?.map Payload.decode ≠
      some (.message (.hello 0 protocolVersion role))) :
    (entries = [] ∨ ∃ id version role reason,
      entries = [(.hello id version role, some (.helloAck 0 .error (some reason)))]) ∧
    (s.written = [] ∨ s.phase = .ended ∧
      ∃ reason, s.written = [.helloAck 0 .error (some reason)]) := by
  cases h with
  | awaited _ _ hwritten | greeted _ _ hwritten | refused _ hwritten =>
    exact ⟨.inl rfl, .inl hwritten⟩
  | answered _ _ hwritten hdecode hack =>
    obtain ⟨⟨rfl, rfl⟩, -⟩ | ⟨-, reason, rfl⟩ := hack
    · exact absurd (congrArg some hdecode) (hfirst _)
    · exact ⟨.inr ⟨_, _, _, reason, rfl⟩, .inl hwritten⟩
  | admitted _ haccepted => exact absurd haccepted (hfirst _)
  | dismissed hphase hwritten hdecode hack =>
    obtain ⟨⟨rfl, rfl⟩, -⟩ | ⟨-, reason, rfl⟩ := hack
    -- an acceptance would need the hello that the client did not send
    · exact absurd (congrArg some hdecode) (hfirst _)
    · exact ⟨.inr ⟨_, _, _, reason, rfl⟩, hwritten.imp_right fun h => ⟨hphase, reason, h.1⟩⟩

end Entering

/-! ## Runs -/

/-- Nothing is asked by a client that has not come. -/
theorem Step.Possible.asked_of_absent (possible : t.Possible S) (attended : t.before.Attended S)
    (hs : t.before.sessions.get? c = none) : t.asked c = none := by
  refine Option.eq_none_iff_forall_ne_some.mpr fun entry hentry => ?_
  obtain ⟨b, hturn, haction, -⟩ := Step.asked_eq_some hentry
  obtain ⟨-, -, hnext, -⟩ := possible.of_turn hturn
  rw [haction] at hnext
  refine attended.asking c ?_ hs
  rw [queued_of_head? hnext, if_pos rfl]
  exact List.cons_ne_nil _ _

theorem Step.Possible.entering (possible : t.Possible S) (attended : t.before.Attended S)
    (hs : t.before.sessions.get? c = some s) (h : Entering taken entries s (t.before.queued c)) :
    ∃ s', t.after.sessions.get? c = some s' ∧
      Entering (taken ++ (t.traffic c).taken) (entries ++ (t.asked c).toList) s'
        (t.after.queued c) := by
  cases hasked : t.asked c with
  | none =>
    obtain ⟨s', hs', goes⟩ := possible.goes attended hs
    rw [Option.toList_none, List.append_nil]
    -- others' turns leave what the broker will handle of this client
    exact ⟨s', hs', h.goes goes (possible.queued_prefix hasked)⟩
  | some entry =>
    obtain ⟨m, answer⟩ := entry
    obtain ⟨a, messages, out, rfl, hhandle, hqueued, htaken, hs'⟩ := possible.of_asked hasked hs
    rw [htaken, List.append_nil]
    exact ⟨_, hs', (hqueued ▸ h).handle hhandle messages⟩

theorem Run.entering (run : Run S (opened config) steps d) :
    (d.sessions.get? c = none → (traffic c steps).taken = [] ∧ asked c steps = []) ∧
      ∀ s, d.sessions.get? c = some s →
        Entering (traffic c steps).taken (asked c steps) s (d.queued c) := by
  induction run with
  | nil => exact ⟨fun _ => ⟨rfl, rfl⟩, fun s hs => absurd hs (Option.some_ne_none s).symm⟩
  | @snoc steps t run possible ih =>
    obtain ⟨hnone, hsome⟩ := ih
    have attended := run.attended (attended_opened S config)
    rw [traffic_snoc, Traffic.append_def, asked_snoc]
    cases hs : t.before.sessions.get? c with
    | none =>
      obtain ⟨htaken, hasked⟩ := hnone hs
      obtain ⟨htraffic, hqueued, habsent⟩ := possible.of_absent attended hs
      rw [htaken, hasked, htraffic, hqueued, possible.asked_of_absent attended hs]
      -- a client that is not there may come with this step, and has said nothing yet
      refine ⟨fun _ => ⟨rfl, rfl⟩, fun s hs' => ?_⟩
      rcases habsent with habsent | ⟨hnew, -⟩
      · rw [habsent] at hs'
        cases hs'
      · rw [hnew] at hs'
        cases hs'
        exact .new
    | some s₁ =>
      obtain ⟨s₂, hs₂, entering⟩ := possible.entering attended hs (hsome s₁ hs)
      rw [hs₂]
      refine ⟨nofun, fun s hs' => ?_⟩
      cases hs'
      exact entering

/-- The broker lists a client only while it handles a request of that client. -/
theorem Step.Possible.asked_of_listed (possible : t.Possible S)
    (hbefore : t.before.broker.clients.get? c = none)
    (hafter : t.after.broker.clients.get? c ≠ none) : ∃ entry, t.asked c = some entry := by
  cases hturn : t.turn with
  | none =>
    rw [possible.broker_of_no_turn hturn] at hafter
    exact absurd hbefore hafter
  | some b =>
    obtain ⟨hpossible, hbroker, -, hfollow⟩ := possible.of_turn hturn
    rw [hfollow, broker_follow] at hafter
    obtain ⟨m, haction⟩ := hpossible.enters (hbroker ▸ hbefore) hafter
    exact ⟨_, Step.asked_of_action hturn haction⟩

/-- Whoever the broker lists has begun with a hello that was accepted. -/
theorem Run.accepted_of_listed (run : Run S (opened config) steps d)
    (hc : d.broker.clients.get? c ≠ none) : ∃ role, (asked c steps).head? =
      some (.hello 0 protocolVersion role, some (.helloAck 0 .ok none)) := by
  induction run with
  | nil => exact absurd rfl hc
  | @snoc steps t run possible ih =>
    rw [asked_snoc]
    by_cases hbefore : t.before.broker.clients.get? c = none
    · have attended := run.attended (attended_opened S config)
      obtain ⟨⟨m, answer⟩, hasked⟩ := possible.asked_of_listed hbefore hc
      obtain ⟨s, hs⟩ : ∃ s, t.before.sessions.get? c = some s := by
        -- somebody whose message is handled has a session
        refine Option.ne_none_iff_exists'.mp fun hs => ?_
        rw [possible.asked_of_absent attended hs] at hasked
        cases hasked
      obtain ⟨a, messages, out, rfl, hhandle, hqueued, -, -⟩ := possible.of_asked hasked hs
      rw [hasked]
      exact (hqueued ▸ run.entering.2 s hs).accepted hhandle hbefore hc
    · obtain ⟨role, hhead⟩ := ih hbefore
      refine ⟨role, ?_⟩
      rw [List.head?_append, hhead]
      rfl

/-- The first payload of a client, as it reads. -/
def firstPayload? (arrived : List UInt8) : Option Payload :=
  (Frame.parse arrived).1.head?.map Payload.decode

/-- The first payload that the session takes is the first one that has arrived. -/
theorem Reading.firstPayload?_eq {arrived : List UInt8} {p : Payload}
    (h : Reading arrived taken s) (hfirst : taken.head?.map Payload.decode = some p) :
    firstPayload? arrived = some p := by
  obtain ⟨rest, hrest⟩ := h.taken_prefix
  rw [firstPayload?, ← hrest]
  cases taken with
  | nil => cases hfirst
  | cons payload taken => exact hfirst

/-- The broker handles nothing of a client but one hello until it has accepted that, and that
is the first message of the client, with the id 0 and the version of this protocol. Of a client
that begins with anything else it handles at most a hello that it rejects, it never lists such a
client, and at most that rejection is written to it, by which the session ends. -/
theorem Run.handshake (run : Run S (opened config) steps d) (hs : d.sessions.get? c = some s) :
    (∀ first rest, asked c steps = first :: rest → ∃ id version role,
      first.1 = .hello id version role ∧
      firstPayload? (traffic c steps).arrived = some (.message (.hello id version role)) ∧
      (rest ≠ [] → id = 0 ∧ version = protocolVersion ∧
        first.2 = some (.helloAck 0 .ok none) ∧ s.written.head? = some (.helloAck 0 .ok none))) ∧
    ((∀ role, firstPayload? (traffic c steps).arrived ≠
        some (.message (.hello 0 protocolVersion role))) →
      (asked c steps = [] ∨ ∃ id version role reason,
        asked c steps = [(.hello id version role, some (.helloAck 0 .error (some reason)))]) ∧
      (∀ t ∈ steps, t.after.broker.clients.get? c = none) ∧
      (s.written = [] ∨ s.phase = .ended ∧
        ∃ reason, s.written = [.helloAck 0 .error (some reason)])) := by
  have entering := run.entering.2 s hs
  have reading := (run.conversing hs).reading
  refine ⟨fun first rest hasked => ?_, fun hfirst => ?_⟩
  · obtain ⟨id, version, role, hhello, htaken, haccepted⟩ := entering.first_asked hasked
    exact ⟨id, version, role, hhello, reading.firstPayload?_eq htaken, haccepted⟩
  · obtain ⟨hasked, hwritten⟩ :=
      entering.turned_away fun role htaken => hfirst role (reading.firstPayload?_eq htaken)
    refine ⟨hasked, fun t ht => ?_, hwritten⟩
    by_contra hlisted
    -- go back to the step after which the client was listed
    obtain ⟨earlier, later, rfl⟩ := List.append_of_mem ht
    obtain ⟨run₁, possible, -⟩ := run.split
    obtain ⟨role, hhead⟩ := (run₁.snoc possible).accepted_of_listed hlisted
    -- what was handled first by then is what was handled first in the end
    have hhead' : (asked c (earlier ++ t :: later)).head? =
        some (.hello 0 protocolVersion role, some (.helloAck 0 .ok none)) := by
      rw [asked] at hhead ⊢
      rw [List.append_cons, List.filterMap_append, List.head?_append, hhead]
      rfl
    rcases hasked with hnone | ⟨id, version, role', reason, hone⟩
    · rw [hnone] at hhead'
      cases hhead'
    · rw [hone] at hhead'
      cases hhead'

/-- A client says hello with a version that there is not and asks to connect in the same breath,
while another client enters. -/
def wrongVersion : List (Action × World Unit) :=
  let hello (version : UInt32) := Frame.ofPayload (Message.hello 0 version .desktop).encode
  let connect := Frame.ofPayload (Message.connect 1 ":0").encode
  let actions : List Action := [.accept, .accept, .arrive 0 (hello 2 ++ connect),
    .arrive 1 (hello 1 ++ connect), .read 0, .read 0, .read 1, .handleRequest, .handleRequest,
    .writeAnswer 1, .read 1, .writeAnswer 0, .read 0, .handleRequest, .writeAnswer 1]
  actions.map fun action => (action, ⟨(), 1⟩)

/-- The first client is rejected, the second one gets to its display. -/
theorem wrongVersion_handshake :
    let steps := (opened ⟨none, true⟩).play Seat.twoGroupServer wrongVersion
    let d := (opened ⟨none, true⟩).finish steps
    (∃ s, d.sessions.get? 0 = some s ∧ s.phase = .ended ∧
      s.written = [.helloAck 0 .error (some "version_mismatch")] ∧
      (∀ role, firstPayload? (traffic 0 steps).arrived ≠
        some (.message (.hello 0 protocolVersion role))) ∧
      ∀ t ∈ steps, t.after.broker.clients.get? 0 = none) ∧
    ∃ s rest, d.sessions.get? 1 = some s ∧ rest ≠ [] ∧
      asked 1 steps = (.hello 0 1 .desktop, some (.helloAck 0 .ok none)) :: rest ∧
      s.written.head? = some (.helloAck 0 .ok none) := by
  intro steps d
  have run : Run Seat.twoGroupServer (opened ⟨none, true⟩) steps d := run_play _ _ wrongVersion
  obtain ⟨hrejected, hfirst, hconnected, hasked⟩ :
      (d.sessions.get? 0).map (fun s => (s.phase, s.written)) =
        some (.ended, [.helloAck 0 .error (some "version_mismatch")]) ∧
      firstPayload? (traffic 0 steps).arrived = some (.message (.hello 0 2 .desktop)) ∧
      (d.sessions.get? 1).isSome = true ∧
      (asked 1 steps).map Prod.fst = [.hello 0 1 .desktop, .connect 1 ":0"] := by decide +kernel
  obtain ⟨s₀, hs₀, hsession⟩ := Option.map_eq_some_iff.mp hrejected
  obtain ⟨hphase, hwritten⟩ := Prod.ext_iff.mp hsession
  obtain ⟨s₁, hs₁⟩ := Option.isSome_iff_exists.mp hconnected
  have hother : ∀ role, firstPayload? (traffic 0 steps).arrived ≠
      some (.message (.hello 0 protocolVersion role)) := by
    intro role
    rw [hfirst]
    simp [protocolVersion]
  obtain ⟨-, hunlisted, -⟩ := (Run.handshake run hs₀).2 hother
  obtain ⟨first, rest, hentries, hhello, hrest⟩ := List.map_eq_cons_iff.mp hasked
  have hne : rest ≠ [] := by
    rintro rfl
    cases hrest
  obtain ⟨id, version, role, -, -, haccepted⟩ := (Run.handshake run hs₁).1 first rest hentries
  obtain ⟨-, -, hanswer, hwritten₁⟩ := haccepted hne
  refine ⟨⟨s₀, hs₀, hphase, hwritten, hother, hunlisted⟩, s₁, rest, hs₁, hne, ?_, hwritten₁⟩
  rw [hentries, ← hhello, ← hanswer]

end Daemon

end InputBridge
