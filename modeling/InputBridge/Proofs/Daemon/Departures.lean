-- SUMMARY: Once a client has departed nothing is done for it, and nothing of it is left.
import InputBridge.Proofs.Broker.Membership
import InputBridge.Proofs.Daemon.Conversation

/-!
# Departures

A session that ends leaves word of it, and the broker forgets the client when it comes to that.
The session has waited for every answer, so it leaves no request behind: whatever order the
broker takes requests and departures in, a client that it has forgotten stays forgotten.
-/

namespace InputBridge

namespace Daemon

variable {σ : Type} {S : DisplayServer σ} {start d : Daemon} {steps : List Step} {t : Step}
  {c : ClientId} {config : BrokerConfig} {y : Traffic} {side side' : Side} {s : Session}

/-- The broker handles the action in this step. -/
def Step.Handles (t : Step) (action : Broker.Action) : Prop :=
  ∃ b, t.turn = some b ∧ b.action = action

/-! ## Sessions that are over -/

/-- The session has ended, and none of its requests waits for the broker. -/
structure Side.Over (side : Side) : Prop where
  ended : side.session.phase = .ended
  queued : side.queued = []

theorem Session.phase_tell (s : Session) (messages : List Message) :
    (s.tell messages).phase = s.phase := by
  unfold tell
  split <;> rfl

/-- A session that has ended neither reads nor writes. -/
theorem Session.idle_of_ended (h : s.phase = .ended) :
    s.read = (s, none) ∧ s.writeAnswer = s ∧ s.writePush = s := by
  refine ⟨by simp [read, isReading, h], ?_, by simp [writePush, h]⟩
  unfold writeAnswer
  split
  · rfl
  · simp [h]

theorem Side.Goes.over (goes : side.Goes y side') (h : side.Over) : side'.Over := by
  obtain ⟨ended, queued⟩ := h
  cases goes with
  | arrive | leave => exact ⟨ended, queued⟩
  | @read s queue =>
    -- nothing was queued, and a session that has ended hands over nothing
    obtain rfl : queue = [] := queued
    dsimp only at ended
    rw [(Session.idle_of_ended ended).1]
    exact ⟨ended, rfl⟩
  | @writeAnswer s queue =>
    dsimp only at ended
    rw [(Session.idle_of_ended ended).2.1]
    exact ⟨ended, queued⟩
  | @writePush s queue =>
    dsimp only at ended
    rw [(Session.idle_of_ended ended).2.2]
    exact ⟨ended, queued⟩
  -- there is nothing that could be answered
  | answer => cases queued
  | tell =>
    refine ⟨?_, queued⟩
    rw [Session.phase_tell]
    exact ended

/-- The client has a session, and that is over. -/
def IsOver (d : Daemon) (c : ClientId) : Prop :=
  ∃ s, d.sessions.get? c = some s ∧ Side.Over ⟨s, d.queued c⟩

theorem Step.Possible.isOver (possible : t.Possible S) (attended : t.before.Attended S)
    (h : t.before.IsOver c) : t.after.IsOver c := by
  obtain ⟨s, hs, hover⟩ := h
  obtain ⟨s', hs', goes⟩ := possible.goes attended hs
  exact ⟨s', hs', goes.over hover⟩

/-- A session that ends owes nothing to the broker. -/
theorem Run.isOver_of_ended (run : Run S (opened config) steps d)
    (hs : d.sessions.get? c = some s) (hended : s.phase = .ended) : d.IsOver c := by
  obtain ⟨-, ⟨answered, owed, answering⟩, -⟩ := run.conversing hs
  have howes := answering.owes
  simp only [Owes, hended] at howes
  exact ⟨s, hs, hended, howes.2⟩

theorem IsOver.not_handles (h : t.before.IsOver c) (possible : t.Possible S) (m : Message) :
    ¬t.Handles (.message c m) := by
  rintro ⟨b, hturn, haction⟩
  obtain ⟨-, -, hnext, -⟩ := possible.of_turn hturn
  rw [haction] at hnext
  obtain ⟨s, -, -, hqueued⟩ := h
  rw [queued_of_head? hnext, if_pos rfl] at hqueued
  cases hqueued

/-! ## Word of a departure -/

@[simp] theorem departures_change {f : Session → Session} :
    (d.change c f).departures = d.departures := by
  obtain ⟨sessions, h⟩ := d.change_frame c f
  rw [h]

@[simp] theorem departures_deliver {out : List Outbound} :
    (d.deliver out).departures = d.departures := by
  obtain ⟨sessions, h⟩ := d.deliver_frame out
  rw [h]

/-- There is word of a departure only when a session ends. -/
theorem ended_of_mem_departures {c' : ClientId} {f : Session → Session × Option Message}
    (h : c ∈ (d.onSession c' f).departures) : c ∈ d.departures ∨
      ∃ s, (d.onSession c' f).sessions.get? c = some s ∧ s.phase = .ended := by
  unfold onSession at h ⊢
  split at h
  · exact .inl h
  · next s hs =>
    dsimp only at h ⊢
    refine (List.mem_append.mp h).imp_right fun hnew => ?_
    -- the word is put into the queue when the session comes to its end
    split at hnew
    · next hends =>
      obtain rfl : c = c' := List.mem_singleton.mp hnew
      exact ⟨(f s).1, (Assoc.get?_insert ..).trans (if_pos rfl), hends.2⟩
    · cases hnew

theorem Step.Possible.ended_of_mem_departures (possible : t.Possible S)
    (h : c ∈ t.after.departures) : c ∈ t.before.departures ∨
      ∃ s, t.after.sessions.get? c = some s ∧ s.phase = .ended := by
  cases hturn : t.turn with
  | some b =>
    obtain ⟨-, -, -, hafter⟩ := possible.of_turn hturn
    rw [hafter] at h
    unfold follow at h
    cases haction : b.action with
    | message | event | failure =>
      rw [haction] at h
      exact .inl (by simpa using h)
    | departure =>
      rw [haction] at h
      -- the one that is handled is the first, and the others stay
      exact .inl (List.mem_of_mem_tail h)
  | none =>
    rw [possible.of_no_turn hturn] at h ⊢
    cases haction : t.action with
    | arrive | hangUp | leave =>
      rw [haction] at h
      exact .inl (departures_change ▸ h)
    | read | writeAnswer | writePush =>
      rw [haction] at h
      exact Daemon.ended_of_mem_departures h
    | accept | report | handleRequest | handleNotice | handleDeparture =>
      rw [haction] at h
      exact .inl h

/-- Whoever there is word of has a session that is over. -/
theorem Run.isOver_of_mem_departures (run : Run S (opened config) steps d)
    (h : c ∈ d.departures) : d.IsOver c := by
  induction run with
  | nil => cases h
  | snoc run possible ih =>
    rcases possible.ended_of_mem_departures h with hold | ⟨s, hs, hended⟩
    · exact possible.isOver (run.attended (attended_opened S config)) (ih hold)
    · exact (run.snoc possible).isOver_of_ended hs hended

theorem Run.isOver_of_departure (run : Run S (opened config) steps t.before)
    (possible : t.Possible S) (h : t.Handles (.departure c)) : t.before.IsOver c := by
  obtain ⟨b, hturn, haction⟩ := h
  obtain ⟨-, -, hnext, -⟩ := possible.of_turn hturn
  rw [haction] at hnext
  exact run.isOver_of_mem_departures (List.mem_of_mem_head? hnext)

/-! ## Forgotten clients -/

/-- The session of the client is over, and the broker does not list it. -/
structure Gone (S : DisplayServer σ) (d : Daemon) (c : ClientId) : Prop where
  attended : d.Attended S
  isOver : d.IsOver c
  unlisted : d.broker.clients.get? c = none

theorem Gone.step (h : t.before.Gone S c) (possible : t.Possible S) : t.after.Gone S c := by
  refine ⟨possible.attended h.attended, possible.isOver h.attended h.isOver, ?_⟩
  cases hturn : t.turn with
  | none =>
    rw [possible.broker_of_no_turn hturn]
    exact h.unlisted
  | some b =>
    obtain ⟨hpossible, hbefore, -, hafter⟩ := possible.of_turn hturn
    rw [hafter, broker_follow]
    by_contra hlisted
    -- only a request of its own could enter it, and there is none
    obtain ⟨m, haction⟩ := hpossible.enters (hbefore ▸ h.unlisted) hlisted
    exact h.isOver.not_handles possible m ⟨b, hturn, haction⟩

theorem Run.gone_of_departure (run : Run S (opened config) steps t.before)
    (possible : t.Possible S) (h : t.Handles (.departure c)) : t.after.Gone S c := by
  have attended := run.attended (attended_opened S config)
  refine ⟨possible.attended attended,
    possible.isOver attended (run.isOver_of_departure possible h), ?_⟩
  obtain ⟨b, hturn, haction⟩ := h
  obtain ⟨hpossible, -, -, hafter⟩ := possible.of_turn hturn
  rw [hafter, broker_follow]
  exact hpossible.clients_of_departure haction

theorem Gone.forgets (h : d.Gone S c) : d.broker.Forgets c :=
  h.attended.reachable.owned.forgets h.unlisted

/-- Nothing is sent to a client that is not listed afterwards. -/
theorem Gone.ne_target (h : t.after.Gone S c) (possible : t.Possible S) :
    ∀ o ∈ t.out, o.target ≠ c := by
  rintro o ho rfl
  cases hturn : t.turn with
  | none =>
    rw [Step.out, hturn] at ho
    cases ho
  | some b =>
    rw [Step.out, hturn] at ho
    obtain ⟨hpossible, -, -, hafter⟩ := possible.of_turn hturn
    have hbroker : t.after.broker = b.after := by rw [hafter, broker_follow]
    have hseat := (hpossible.of_mem_out (hbroker ▸ h.attended.reachable) ho).2
    -- a client that is not listed has no seat, and only clients at a seat are sent anything
    rw [Broker.seatOf, ← hbroker, h.unlisted] at hseat
    exact hseat rfl

/-! ## Runs -/

/-- What every step keeps holds around every step, and in the end. -/
theorem Run.lasting {P : Daemon → Prop} (run : Run S start steps d) (hstart : P start)
    (hstep : ∀ t : Step, P t.before → t.Possible S → P t.after) :
    (∀ t ∈ steps, t.Possible S ∧ P t.before ∧ P t.after) ∧ P d := by
  induction run with
  | nil => exact ⟨List.forall_mem_nil _, hstart⟩
  | @snoc steps t _ possible ih =>
    obtain ⟨hsteps, hbefore⟩ := ih
    have hafter := hstep t hbefore possible
    refine ⟨?_, hafter⟩
    rw [List.forall_mem_append, List.forall_mem_singleton]
    exact ⟨hsteps, possible, hbefore, hafter⟩

theorem Run.gone (run : Run S start steps d) (h : start.Gone S c) :
    (∀ t ∈ steps, t.Possible S ∧ t.before.Gone S c ∧ t.after.Gone S c) ∧ d.Gone S c :=
  run.lasting (P := fun d => d.Gone S c) h fun _ h possible => h.step possible

/-- Whoever the broker lists has come. -/
theorem Run.session_of_listed (run : Run S (opened config) steps d)
    (hc : d.broker.clients.get? c ≠ none) : d.sessions.get? c ≠ none := by
  induction run with
  | nil => exact absurd rfl hc
  | @snoc steps t run possible ih =>
    have attended := run.attended (attended_opened S config)
    have hbefore : t.before.sessions.get? c ≠ none := by
      cases hturn : t.turn with
      | none =>
        rw [possible.broker_of_no_turn hturn] at hc
        exact ih hc
      | some b =>
        obtain ⟨hpossible, hbroker, hnext, hafter⟩ := possible.of_turn hturn
        rw [hafter, broker_follow] at hc
        by_cases hlisted : b.before.clients.get? c = none
        -- a client is entered by a message of its own, so it has a session
        · obtain ⟨m, haction⟩ := hpossible.enters hlisted hc
          rw [haction] at hnext
          refine attended.asking c ?_
          rw [queued_of_head? hnext, if_pos rfl]
          exact List.cons_ne_nil _ _
        · exact ih (hbroker ▸ hlisted)
    obtain ⟨s, hs⟩ := Option.ne_none_iff_exists'.mp hbefore
    obtain ⟨s', hs', -⟩ := possible.goes attended hs
    rw [hs']
    exact Option.some_ne_none s'

/-- From the word of its departure on no request of a client is handled. Once the departure is
handled nothing of the client is kept and nothing is sent to it any more, and once those of all
clients that ever came are handled the broker has nothing left. -/
theorem Run.departed (run : Run S (opened config) steps d) :
    (∀ earlier t later c, steps = earlier ++ t :: later →
      c ∈ t.after.departures ∨ t.Handles (.departure c) →
        ∀ t' ∈ later, ∀ m, ¬t'.Handles (.message c m)) ∧
    (∀ earlier t later c, steps = earlier ++ t :: later → t.Handles (.departure c) →
      ∀ t' ∈ t :: later, t'.after.broker.Forgets c ∧ ∀ o ∈ t'.out, o.target ≠ c) ∧
    ((∀ c, d.sessions.get? c ≠ none → ∃ t ∈ steps, t.Handles (.departure c)) →
      d.broker.clients = [] ∧ d.broker.windows = [] ∧ d.broker.handles = [] ∧
        d.broker.seats.seats = []) := by
  refine ⟨?_, ?_, ?_⟩
  · rintro earlier t later c rfl hdeparts t' ht' m
    obtain ⟨run₁, possible, run₂⟩ := run.split
    have attended := run₁.attended (attended_opened S config)
    -- either the word is in the queue or it was taken out just now
    have hover : t.after.IsOver c := by
      rcases hdeparts with hword | hhandled
      · exact (run₁.snoc possible).isOver_of_mem_departures hword
      · exact possible.isOver attended (run₁.isOver_of_departure possible hhandled)
    obtain ⟨lasting, -⟩ := run₂.lasting (P := fun d => d.Attended S ∧ d.IsOver c)
      ⟨possible.attended attended, hover⟩
      fun t h possible => ⟨possible.attended h.1, possible.isOver h.1 h.2⟩
    obtain ⟨possible', ⟨-, hover'⟩, -⟩ := lasting t' ht'
    exact hover'.not_handles possible' m
  · rintro earlier t later c rfl hdeparts
    obtain ⟨run₁, possible, run₂⟩ := run.split
    have gone := run₁.gone_of_departure possible hdeparts
    obtain ⟨lasting, -⟩ := run₂.gone gone
    rw [List.forall_mem_cons]
    refine ⟨⟨gone.forgets, gone.ne_target possible⟩, fun t' ht' => ?_⟩
    obtain ⟨possible', -, gone'⟩ := lasting t' ht'
    exact ⟨gone'.forgets, gone'.ne_target possible'⟩
  · intro hall
    -- nothing is left when nobody is listed, and whoever has departed is not
    refine run.reachable.nothing_left fun c => ?_
    by_contra hlisted
    obtain ⟨t, ht, hdeparts⟩ := hall c (run.session_of_listed hlisted)
    obtain ⟨earlier, later, rfl⟩ := List.append_of_mem ht
    obtain ⟨run₁, possible, run₂⟩ := run.split
    exact hlisted (run₂.gone (run₁.gone_of_departure possible hdeparts)).2.unlisted

/-- In a run that is written out the broker's actions can be looked up. -/
theorem handles_of_getElem? {i : Nat} {action : Broker.Action}
    (h : (steps[i]?.bind (·.turn)).map (·.action) = some action) :
    ∃ t, steps = steps.take i ++ t :: steps.drop (i + 1) ∧ t.Handles action := by
  obtain ⟨b, hb, haction⟩ := Option.map_eq_some_iff.mp h
  obtain ⟨t, ht, hturn⟩ := Option.bind_eq_some_iff.mp hb
  obtain ⟨hlt, rfl⟩ := List.getElem?_eq_some_iff.mp ht
  refine ⟨steps[i], ?_, b, hturn, haction⟩
  rw [← List.drop_eq_getElem_cons, List.take_append_drop]

/-- Two clients share a display. The first one leaves with a window registered while Caps Lock
is pressed, and then the second one leaves. -/
def lastOneOut : List (Action × World Unit) :=
  let hello := Frame.ofPayload (Message.hello 0 1 .desktop).encode
  let connect := Frame.ofPayload (Message.connect 1 ":0").encode
  let start := Frame.ofPayload (Message.startInput 2 0x500 1).encode
  let actions : List Action := [.accept, .accept, .arrive 0 (hello ++ connect ++ start),
    .arrive 1 (hello ++ connect), .read 0, .read 1, .handleRequest, .handleRequest,
    .writeAnswer 0, .writeAnswer 1, .read 0, .read 1, .handleRequest, .handleRequest,
    .writeAnswer 0, .writeAnswer 1, .read 0, .handleRequest, .leave 0, .writeAnswer 0,
    .report 0 (.event (.keyboardState 0 2)), .handleDeparture, .handleNotice,
    .hangUp 1, .read 1, .handleDeparture]
  actions.map fun action => (action, ⟨(), 1⟩)

/-- Only the second client is told of Caps Lock, and when it has left as well nothing is left. -/
theorem lastOneOut_departed :
    let steps := (opened ⟨none, true⟩).play Seat.twoGroupServer lastOneOut
    let d := (opened ⟨none, true⟩).finish steps
    (∃ earlier t later, steps = earlier ++ t :: later ∧ t.Handles (.departure 0) ∧
      (later.flatMap Step.out).map (·.target) = [1] ∧
      ∀ t' ∈ t :: later, t'.after.broker.Forgets 0 ∧ ∀ o ∈ t'.out, o.target ≠ 0) ∧
    (∀ c, d.sessions.get? c ≠ none → ∃ t ∈ steps, t.Handles (.departure c)) ∧
      d.broker.clients = [] ∧ d.broker.windows = [] ∧ d.broker.handles = [] ∧
        d.broker.seats.seats = [] := by
  intro steps d
  have run : Run Seat.twoGroupServer (opened ⟨none, true⟩) steps d := run_play _ _ lastOneOut
  obtain ⟨-, forgotten, nothing⟩ := Run.departed run
  obtain ⟨hfirst, hsecond, hkeys, htargets⟩ :
      (steps[21]?.bind (·.turn)).map (·.action) = some (.departure 0) ∧
      (steps[25]?.bind (·.turn)).map (·.action) = some (.departure 1) ∧
      d.sessions.map Prod.fst = [0, 1] ∧
      ((steps.drop 22).flatMap Step.out).map (·.target) = [1] := by decide +kernel
  obtain ⟨t₀, hsteps₀, hdeparts₀⟩ := handles_of_getElem? hfirst
  obtain ⟨t₁, hsteps₁, hdeparts₁⟩ := handles_of_getElem? hsecond
  have hall : ∀ c, d.sessions.get? c ≠ none → ∃ t ∈ steps, t.Handles (.departure c) := by
    intro c hc
    obtain ⟨s, hs⟩ := Option.ne_none_iff_exists'.mp hc
    have hmem : c ∈ d.sessions.map Prod.fst := List.mem_map_of_mem (Assoc.mem_of_get? hs)
    rw [hkeys] at hmem
    rcases List.mem_pair.mp hmem with rfl | rfl
    · exact ⟨t₀, by rw [hsteps₀]; simp, hdeparts₀⟩
    · exact ⟨t₁, by rw [hsteps₁]; simp, hdeparts₁⟩
  exact ⟨⟨steps.take 21, t₀, steps.drop 22, hsteps₀, hdeparts₀, htargets,
    forgotten _ t₀ _ 0 hsteps₀ hdeparts₀⟩, hall, nothing hall⟩

end Daemon

end InputBridge
