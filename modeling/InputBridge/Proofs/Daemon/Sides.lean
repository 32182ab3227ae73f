-- SUMMARY: Every step of the daemon, as one of few things for a client.
import InputBridge.Proofs.Broker.Answers
import InputBridge.Proofs.Daemon.Run
import InputBridge.Proofs.Daemon.Sessions

/-!
# The side of a client

Of all that the daemon does a client sees what its own session does, and the broker when it
answers the client or has something for it. Every step is one of a few things on the side of
a client, whatever the other clients do.
-/

namespace InputBridge

namespace Daemon

variable {σ : Type}

/-- The requests of a client that wait for the broker, the oldest first. -/
def queued (d : Daemon) (c : ClientId) : List Message :=
  (d.requests.filter (·.1 = c)).map (·.2)

/-! ## Traffic -/

/-- What has passed between a client and the daemon. -/
structure Traffic where
  /-- The bytes that have come from the client. -/
  arrived : List UInt8 := []
  /-- The payloads that the client's session has taken. -/
  taken : List (List UInt8) := []
  /-- What the broker has sent to the client unasked. -/
  told : List Message := []

instance : Append Traffic where
  append x y := ⟨x.arrived ++ y.arrived, x.taken ++ y.taken, x.told ++ y.told⟩

theorem Traffic.append_def (x y : Traffic) :
    x ++ y = ⟨x.arrived ++ y.arrived, x.taken ++ y.taken, x.told ++ y.told⟩ := rfl

@[simp] theorem Traffic.append_empty (x : Traffic) : x ++ ({} : Traffic) = x := by
  simp [Traffic.append_def]

theorem Traffic.append_assoc (x y z : Traffic) : x ++ y ++ z = x ++ (y ++ z) := by
  simp [Traffic.append_def]

/-- What passes in a step. -/
def Step.traffic (t : Step) (c : ClientId) : Traffic where
  arrived := match t.action with
    | .arrive c' bytes => if c' = c ∧ (t.before.sessions.get? c).isSome then bytes else []
    | _ => []
  taken := match t.action with
    | .read c' =>
      if c' = c then ((t.before.sessions.get? c).bind Session.nextPayload?).toList else []
    | _ => []
  told := Broker.messagesFor c t.out

/-- What passes in some steps. -/
def traffic (c : ClientId) (steps : List Step) : Traffic where
  arrived := steps.flatMap fun t => (t.traffic c).arrived
  taken := steps.flatMap fun t => (t.traffic c).taken
  told := steps.flatMap fun t => (t.traffic c).told

theorem traffic_nil (c : ClientId) : traffic c [] = {} := rfl

theorem traffic_snoc (c : ClientId) (steps : List Step) (t : Step) :
    traffic c (steps ++ [t]) = traffic c steps ++ t.traffic c := by
  simp only [traffic, List.flatMap_append, List.flatMap_singleton]
  rfl

/-! ## Sessions -/

section Sessions

variable {d : Daemon} {c c' : ClientId} {out : List Outbound}

theorem get?_change {f : Session → Session} : (d.change c' f).sessions.get? c =
    if c' = c then (d.sessions.get? c).map f else d.sessions.get? c := by
  unfold change
  by_cases h : c' = c
  · subst h
    cases hs : d.sessions.get? c' <;> simp [hs]
  · cases hs : d.sessions.get? c' <;> simp [h]

theorem get?_onSession {f : Session → Session × Option Message} :
    (d.onSession c' f).sessions.get? c =
      if c' = c then (d.sessions.get? c).map fun s => (f s).1 else d.sessions.get? c := by
  unfold onSession
  by_cases h : c' = c
  · subst h
    cases hs : d.sessions.get? c' <;> simp [hs]
  · cases hs : d.sessions.get? c' <;> simp [h]

theorem queued_onSession {f : Session → Session × Option Message} :
    (d.onSession c' f).queued c =
      if c' = c then d.queued c ++ ((d.sessions.get? c).bind fun s => (f s).2).toList
      else d.queued c := by
  unfold onSession
  cases hs : d.sessions.get? c' with
  -- nothing happens to a client without a session, nor to others
  | none =>
    by_cases h : c' = c
    · rw [if_pos h, ← h, hs]
      exact (List.append_nil _).symm
    · exact (if_neg h).symm
  | some s =>
    simp only [queued, List.filter_append, List.map_append]
    by_cases h : c' = c
    · subst h
      cases hrequest : (f s).2 <;> simp [hs, hrequest]
    · cases (f s).2 <;> simp [h]

theorem get?_deliver (d : Daemon) (c : ClientId) (out : List Outbound) :
    (d.deliver out).sessions.get? c =
      (d.sessions.get? c).map (·.tell (Broker.messagesFor c out)) := by
  unfold deliver
  induction out generalizing d with
  | nil => simp [Broker.messagesFor]
  | cons o out ih =>
    rw [List.foldl_cons, ih, get?_change]
    -- each message is put behind those that wait already
    by_cases h : o.target = c
    · have hmessages : Broker.messagesFor c (o :: out) = [o.message] ++
          Broker.messagesFor c out := by simp [Broker.messagesFor, h]
      rw [if_pos h, Option.map_map, hmessages]
      simp only [← Session.tell_tell]
      rfl
    · have hmessages : Broker.messagesFor c (o :: out) = Broker.messagesFor c out := by
        simp [Broker.messagesFor, h]
      rw [if_neg h, hmessages]

@[simp] theorem queued_change {f : Session → Session} : (d.change c' f).queued c = d.queued c := by
  obtain ⟨sessions, h⟩ := d.change_frame c' f
  rw [h]
  rfl

@[simp] theorem queued_deliver : (d.deliver out).queued c = d.queued c := by
  obtain ⟨sessions, h⟩ := d.deliver_frame out
  rw [h]
  rfl

@[simp] theorem nextClient_change {f : Session → Session} :
    (d.change c f).nextClient = d.nextClient := by
  obtain ⟨sessions, h⟩ := d.change_frame c f
  rw [h]

@[simp] theorem nextClient_onSession {f : Session → Session × Option Message} :
    (d.onSession c f).nextClient = d.nextClient := by
  obtain ⟨sessions, requests, departures, h⟩ := d.onSession_frame c f
  rw [h]

@[simp] theorem nextClient_deliver : (d.deliver out).nextClient = d.nextClient := by
  obtain ⟨sessions, h⟩ := d.deliver_frame out
  rw [h]

end Sessions

/-! ## Steps of a side -/

/-- The session of a client with the client's requests that wait for the broker. -/
structure Side where
  session : Session
  queued : List Message

/-- What a step can be for a client that has a session. -/
inductive Side.Goes : Side → Traffic → Side → Prop where
  | arrive {s : Session} {queue : List Message} (bytes : List UInt8) :
      Goes ⟨s, queue⟩ { arrived := bytes } ⟨{ s with reader := s.reader.feed bytes }, queue⟩
  | leave {s : Session} {queue : List Message} (gone : Bool) :
      Goes ⟨s, queue⟩ {} ⟨{ s with hungUp := true, gone }, queue⟩
  | read {s : Session} {queue : List Message} :
      Goes ⟨s, queue⟩ { taken := s.nextPayload?.toList } ⟨s.read.1, queue ++ s.read.2.toList⟩
  | writeAnswer {s : Session} {queue : List Message} : Goes ⟨s, queue⟩ {} ⟨s.writeAnswer, queue⟩
  | writePush {s : Session} {queue : List Message} : Goes ⟨s, queue⟩ {} ⟨s.writePush, queue⟩
  /-- The broker handles the oldest request of the client. -/
  | answer {s : Session} {queue messages : List Message} {m a : Message}
      (h : (Payload.message m).AnsweredBy a) (hpush : ∀ p ∈ messages, p.isPush = true) :
      Goes ⟨s, m :: queue⟩ { told := messages } ⟨{ s with answer := some a }.tell messages, queue⟩
  /-- The broker handles something else, and may have something for the client. -/
  | tell {s : Session} {queue messages : List Message} (hpush : ∀ p ∈ messages, p.isPush = true) :
      Goes ⟨s, queue⟩ { told := messages } ⟨s.tell messages, queue⟩

theorem Side.Goes.idle (s : Session) (queue : List Message) : Goes ⟨s, queue⟩ {} ⟨s, queue⟩ := by
  have told : Goes ⟨s, queue⟩ {} ⟨s.tell [], queue⟩ := .tell (List.forall_mem_nil _)
  rwa [Session.tell_nil] at told

/-- Whoever the broker knows has a session. -/
structure Attended (S : DisplayServer σ) (d : Daemon) : Prop where
  reachable : Broker.Reachable S d.broker
  old : ∀ c, d.sessions.get? c ≠ none → c < d.nextClient
  asking : ∀ c, d.queued c ≠ [] → d.sessions.get? c ≠ none
  seated : ∀ c, d.broker.seatOf c ≠ none → d.sessions.get? c ≠ none

section Steps

variable {S : DisplayServer σ} {d : Daemon} {w : World σ} {action : Action} {t : Step}
  {b : Broker.Step} {c : ClientId} {s : Session}

theorem Step.Possible.traffic_of_turn (possible : t.Possible S) (hturn : t.turn = some b)
    (c : ClientId) : t.traffic c = { told := Broker.messagesFor c b.out } := by
  have htold : Broker.messagesFor c t.out = Broker.messagesFor c b.out := by
    rw [Step.out, hturn]
    rfl
  have hnext := possible.next?_of_turn hturn
  unfold Step.traffic
  rw [htold]
  cases haction : t.action with
  | handleRequest | handleNotice | handleDeparture => rfl
  | accept | arrive | hangUp | leave | report | read | writeAnswer | writePush =>
    simp [haction, next?] at hnext

theorem messagesFor_of_no_turn (hturn : t.turn = none) : Broker.messagesFor c t.out = [] := by
  rw [Step.out, hturn]
  rfl

theorem queued_of_head? {c' : ClientId} {m : Message} (hnext : d.requests.head? = some (c', m)) :
    d.queued c = if c' = c then m :: { d with requests := d.requests.tail }.queued c
      else { d with requests := d.requests.tail }.queued c := by
  obtain ⟨requests, hrequests⟩ := List.head?_eq_some_iff.mp hnext
  unfold queued
  rw [hrequests, List.tail_cons, List.filter_cons]
  by_cases h : c' = c <;> simp [h]

/-- For a client a turn of the broker is that its request is answered, or that it may be
told something. -/
theorem Step.Possible.goes_of_turn (possible : t.Possible S) (hturn : t.turn = some b)
    (attended : t.before.Attended S) (hs : t.before.sessions.get? c = some s) :
    ∃ s', t.after.sessions.get? c = some s' ∧
      Side.Goes ⟨s, t.before.queued c⟩ (t.traffic c) ⟨s', t.after.queued c⟩ := by
  obtain ⟨hpossible, hbefore, hnext, hafter⟩ := possible.of_turn hturn
  -- all that the broker sends beside answers is sent unasked
  have hpush : ∀ p ∈ Broker.messagesFor c b.out, p.isPush = true := by
    intro p hp
    obtain ⟨o, ho, rfl⟩ := List.mem_map.mp hp
    have reachable := Broker.Reachable.snoc (hbefore ▸ attended.reachable) hpossible
    exact (hpossible.of_mem_out reachable (List.mem_filter.mp ho).1).1
  rw [possible.traffic_of_turn hturn, hafter]
  unfold follow
  cases haction : b.action with
  | message c' m =>
    rw [haction] at hnext
    obtain ⟨a, hanswer, -⟩ := hpossible.of_message haction
    have answered := hpossible.answeredBy haction hanswer
    dsimp only
    rw [get?_deliver, get?_change, queued_deliver, queued_change, queued_of_head? hnext, hanswer]
    by_cases h : c' = c
    · -- what the broker has for the client comes after the answer, in the same step
      rw [if_pos h, if_pos h]
      exact ⟨_, by rw [hs]; rfl, .answer answered hpush⟩
    · rw [if_neg h, if_neg h]
      exact ⟨_, by rw [hs]; rfl, .tell hpush⟩
  | event | failure =>
    dsimp only
    rw [get?_deliver, queued_deliver]
    exact ⟨_, by rw [hs]; rfl, .tell hpush⟩
  | departure c' =>
    -- its session has ended, but stays as it was
    rw [(hpossible.of_departure haction).1]
    exact ⟨s, hs, .idle s _⟩

theorem goes_of_change {c' : ClientId} {f : Session → Session} {x : Traffic}
    (hs : d.sessions.get? c = some s)
    (own : c' = c → Side.Goes ⟨s, d.queued c⟩ x ⟨f s, d.queued c⟩) (other : c' ≠ c → x = {}) :
    ∃ s', (d.change c' f).sessions.get? c = some s' ∧
      Side.Goes ⟨s, d.queued c⟩ x ⟨s', (d.change c' f).queued c⟩ := by
  rw [get?_change, queued_change]
  by_cases h : c' = c
  · rw [if_pos h]
    exact ⟨f s, by rw [hs]; rfl, own h⟩
  · rw [if_neg h, other h]
    exact ⟨s, hs, .idle s _⟩

theorem goes_of_onSession {c' : ClientId} {f : Session → Session × Option Message} {x : Traffic}
    (hs : d.sessions.get? c = some s)
    (own : c' = c → Side.Goes ⟨s, d.queued c⟩ x ⟨(f s).1, d.queued c ++ (f s).2.toList⟩)
    (other : c' ≠ c → x = {}) :
    ∃ s', (d.onSession c' f).sessions.get? c = some s' ∧
      Side.Goes ⟨s, d.queued c⟩ x ⟨s', (d.onSession c' f).queued c⟩ := by
  rw [get?_onSession, queued_onSession]
  by_cases h : c' = c
  · rw [if_pos h, if_pos h, hs]
    exact ⟨(f s).1, rfl, own h⟩
  · rw [if_neg h, if_neg h, other h]
    exact ⟨s, hs, .idle s _⟩

/-- What else can be for a client is that it sends or leaves, or that its session goes on. -/
theorem Step.Possible.goes_of_no_turn (possible : t.Possible S) (hturn : t.turn = none)
    (attended : t.before.Attended S) (hs : t.before.sessions.get? c = some s) :
    ∃ s', t.after.sessions.get? c = some s' ∧
      Side.Goes ⟨s, t.before.queued c⟩ (t.traffic c) ⟨s', t.after.queued c⟩ := by
  rw [possible.of_no_turn hturn]
  unfold Step.traffic
  rw [messagesFor_of_no_turn hturn]
  cases t.action with
  | accept =>
    -- a number is given to one client only, so this is not the session's own
    have hne : t.before.nextClient ≠ c :=
      Nat.ne_of_gt (attended.old c (by rw [hs]; exact nofun))
    refine ⟨s, ?_, .idle s _⟩
    exact (Assoc.get?_insert ..).trans ((if_neg hne).trans hs)
  | report => exact ⟨s, hs, .idle s _⟩
  | arrive c' bytes =>
    refine goes_of_change hs (fun h => ?_) fun h => by simp [h]
    simpa [h, hs] using Side.Goes.arrive bytes
  | hangUp c' => exact goes_of_change hs (fun _ => .leave s.gone) fun _ => rfl
  | leave c' => exact goes_of_change hs (fun _ => .leave true) fun _ => rfl
  | read c' =>
    refine goes_of_onSession (f := Session.read) hs (fun h => ?_) fun h => by simp [h]
    simpa [h, hs] using Side.Goes.read
  | writeAnswer c' =>
    refine goes_of_onSession (f := fun s => (s.writeAnswer, none)) hs (fun _ => ?_) fun _ => rfl
    rw [Option.toList_none, List.append_nil]
    exact .writeAnswer
  | writePush c' =>
    refine goes_of_onSession (f := fun s => (s.writePush, none)) hs (fun _ => ?_) fun _ => rfl
    rw [Option.toList_none, List.append_nil]
    exact .writePush
  | handleRequest | handleNotice | handleDeparture => exact ⟨s, hs, .idle s _⟩

theorem Step.Possible.goes (possible : t.Possible S) (attended : t.before.Attended S)
    (hs : t.before.sessions.get? c = some s) : ∃ s', t.after.sessions.get? c = some s' ∧
      Side.Goes ⟨s, t.before.queued c⟩ (t.traffic c) ⟨s', t.after.queued c⟩ := by
  cases hturn : t.turn with
  | some b => exact possible.goes_of_turn hturn attended hs
  | none => exact possible.goes_of_no_turn hturn attended hs

/-! ## Clients that have not come -/

theorem absent_of_change {c' : ClientId} {f : Session → Session} (hs : d.sessions.get? c = none) :
    (d.change c' f).sessions.get? c = none := by
  rw [get?_change, hs]
  exact ite_self _

theorem absent_of_onSession (c' : ClientId) (f : Session → Session × Option Message)
    (hs : d.sessions.get? c = none) (hqueued : d.queued c = []) :
    (d.onSession c' f).sessions.get? c = none ∧ (d.onSession c' f).queued c = [] := by
  rw [get?_onSession, queued_onSession, hs, hqueued]
  exact ⟨ite_self _, ite_self _⟩

theorem Step.Possible.absent_of_no_turn (possible : t.Possible S) (hturn : t.turn = none)
    (hs : t.before.sessions.get? c = none) (hqueued : t.before.queued c = []) :
    t.traffic c = {} ∧ t.after.queued c = [] ∧
      (t.after.sessions.get? c = none ∨
        t.after.sessions.get? c = some {} ∧ c < t.after.nextClient) := by
  rw [possible.of_no_turn hturn]
  unfold Step.traffic
  rw [messagesFor_of_no_turn hturn]
  cases t.action with
  | accept =>
    refine ⟨rfl, hqueued, ?_⟩
    by_cases h : t.before.nextClient = c
    -- this is the session that begins
    · exact .inr ⟨(Assoc.get?_insert ..).trans (if_pos h), Nat.lt_succ_of_le (Nat.le_of_eq h.symm)⟩
    · exact .inl ((Assoc.get?_insert ..).trans ((if_neg h).trans hs))
  | report => exact ⟨rfl, hqueued, .inl hs⟩
  | arrive c' bytes =>
    exact ⟨by simp [hs], queued_change.trans hqueued, .inl (absent_of_change hs)⟩
  | hangUp c' => exact ⟨rfl, queued_change.trans hqueued, .inl (absent_of_change hs)⟩
  | leave c' => exact ⟨rfl, queued_change.trans hqueued, .inl (absent_of_change hs)⟩
  | read c' =>
    obtain ⟨hs', hqueued'⟩ := absent_of_onSession c' Session.read hs hqueued
    exact ⟨by simp [hs], hqueued', .inl hs'⟩
  | writeAnswer c' =>
    obtain ⟨hs', hqueued'⟩ := absent_of_onSession c' (fun s => (s.writeAnswer, none)) hs hqueued
    exact ⟨rfl, hqueued', .inl hs'⟩
  | writePush c' =>
    obtain ⟨hs', hqueued'⟩ := absent_of_onSession c' (fun s => (s.writePush, none)) hs hqueued
    exact ⟨rfl, hqueued', .inl hs'⟩
  | handleRequest | handleNotice | handleDeparture => exact ⟨rfl, hqueued, .inl hs⟩

/-- A turn of the broker gives seats only to clients with sessions. -/
theorem Step.Possible.seated_of_turn (possible : t.Possible S) (hturn : t.turn = some b)
    (attended : t.before.Attended S) (hc : b.after.seatOf c ≠ none) :
    t.before.sessions.get? c ≠ none := by
  obtain ⟨hpossible, hbefore, hnext, -⟩ := possible.of_turn hturn
  rcases hpossible.seatOf hc with hseat | ⟨m, haction⟩
  · exact attended.seated c (hbefore ▸ hseat)
  · rw [haction] at hnext
    refine attended.asking c ?_
    rw [queued_of_head? hnext, if_pos rfl]
    exact List.cons_ne_nil _ _

/-- Nothing passes for a client without a session, but a session begins when it comes. -/
theorem Step.Possible.of_absent (possible : t.Possible S) (attended : t.before.Attended S)
    (hs : t.before.sessions.get? c = none) :
    t.traffic c = {} ∧ t.after.queued c = [] ∧
      (t.after.sessions.get? c = none ∨
        t.after.sessions.get? c = some {} ∧ c < t.after.nextClient) := by
  have hqueued : t.before.queued c = [] := by
    by_contra hne
    exact attended.asking c hne hs
  cases hturn : t.turn with
  | none => exact possible.absent_of_no_turn hturn hs hqueued
  | some b =>
    obtain ⟨hpossible, hbefore, hnext, hafter⟩ := possible.of_turn hturn
    -- who is sent something is at a seat, and so has a session
    have htold : Broker.messagesFor c b.out = [] := by
      refine List.map_eq_nil_iff.mpr (List.filter_eq_nil_iff.mpr fun o ho htarget => ?_)
      have reachable := Broker.Reachable.snoc (hbefore ▸ attended.reachable) hpossible
      have hseat := (hpossible.of_mem_out reachable ho).2
      rw [of_decide_eq_true htarget] at hseat
      exact possible.seated_of_turn hturn attended hseat hs
    rw [possible.traffic_of_turn hturn, htold, hafter]
    refine ⟨rfl, ?_⟩
    unfold follow
    cases haction : b.action with
    | message c' m =>
      rw [haction] at hnext
      rw [queued_of_head? hnext] at hqueued
      dsimp only
      rw [get?_deliver, get?_change, queued_deliver, queued_change]
      -- a message of the client would be in its queue
      by_cases h : c' = c
      · rw [if_pos h] at hqueued
        cases hqueued
      · rw [if_neg h] at hqueued
        exact ⟨hqueued, .inl (by rw [if_neg h, hs]; rfl)⟩
    | event | failure =>
      dsimp only
      rw [get?_deliver, queued_deliver]
      exact ⟨hqueued, .inl (by rw [hs]; rfl)⟩
    | departure => exact ⟨hqueued, .inl hs⟩

theorem Step.Possible.nextClient_le (possible : t.Possible S) :
    t.before.nextClient ≤ t.after.nextClient := by
  cases hturn : t.turn with
  | some b =>
    obtain ⟨-, -, -, hafter⟩ := possible.of_turn hturn
    rw [hafter]
    unfold follow
    split <;> simp
  | none =>
    rw [possible.of_no_turn hturn]
    cases t.action with
    | accept => exact Nat.le_succ _
    | arrive | hangUp | leave => exact Nat.le_of_eq nextClient_change.symm
    | read | writeAnswer | writePush => exact Nat.le_of_eq nextClient_onSession.symm
    | report | handleRequest | handleNotice | handleDeparture => exact Nat.le_refl _

theorem Step.Possible.attended (possible : t.Possible S) (attended : t.before.Attended S) :
    t.after.Attended S := by
  -- a session that is there is never taken away
  have keeps : ∀ c, t.before.sessions.get? c ≠ none → t.after.sessions.get? c ≠ none := by
    intro c hc
    obtain ⟨s, hs⟩ := Option.ne_none_iff_exists'.mp hc
    obtain ⟨s', hs', -⟩ := possible.goes attended hs
    rw [hs']
    exact Option.some_ne_none s'
  refine ⟨?_, ?_, ?_, ?_⟩
  · cases hturn : t.turn with
    | none =>
      rw [possible.broker_of_no_turn hturn]
      exact attended.reachable
    | some b =>
      obtain ⟨hpossible, hbefore, -, hafter⟩ := possible.of_turn hturn
      rw [hafter, broker_follow]
      exact Broker.Reachable.snoc (hbefore ▸ attended.reachable) hpossible
  -- a number that is new was the next one to be given out
  · intro c hc
    by_cases hs : t.before.sessions.get? c = none
    · obtain ⟨-, -, hnone | ⟨-, hlt⟩⟩ := possible.of_absent attended hs
      · exact absurd hnone hc
      · exact hlt
    · exact Nat.lt_of_lt_of_le (attended.old c hs) possible.nextClient_le
  · intro c hc
    refine keeps c fun hs => ?_
    exact hc (possible.of_absent attended hs).2.1
  · intro c hc
    cases hturn : t.turn with
    | none =>
      rw [possible.broker_of_no_turn hturn] at hc
      exact keeps c (attended.seated c hc)
    | some b =>
      obtain ⟨-, -, -, hafter⟩ := possible.of_turn hturn
      rw [hafter, broker_follow] at hc
      exact keeps c (possible.seated_of_turn hturn attended hc)

end Steps

/-! ## Runs -/

section Runs

variable {S : DisplayServer σ} {start d : Daemon} {steps : List Step} {c : ClientId} {s : Session}
  {config : BrokerConfig} {x : Traffic} {P : Traffic → Side → Prop}

theorem attended_opened (S : DisplayServer σ) (config : BrokerConfig) :
    (opened config).Attended S where
  reachable := ⟨config, [], .nil⟩
  old _ h := absurd rfl h
  asking _ h := absurd rfl h
  seated _ h := absurd rfl h

theorem Run.attended (run : Run S start steps d) (attended : start.Attended S) :
    d.Attended S := by
  induction run with
  | nil => exact attended
  | snoc _ possible ih => exact possible.attended ih

/-- What every step keeps for a client with a session holds from then on. -/
theorem Run.side_from (run : Run S start steps d) (attended : start.Attended S)
    (hs : start.sessions.get? c = some s) (hstart : P x ⟨s, start.queued c⟩)
    (hstep : ∀ x y side side', P x side → side.Goes y side' → P (x ++ y) side') :
    ∃ s', d.sessions.get? c = some s' ∧ P (x ++ traffic c steps) ⟨s', d.queued c⟩ := by
  induction run with
  | nil => exact ⟨s, hs, by rw [traffic_nil, Traffic.append_empty]; exact hstart⟩
  | snoc run possible ih =>
    obtain ⟨s₁, hs₁, h₁⟩ := ih
    obtain ⟨s₂, hs₂, goes⟩ := possible.goes (run.attended attended) hs₁
    rw [traffic_snoc, ← Traffic.append_assoc]
    exact ⟨s₂, hs₂, hstep _ _ _ _ h₁ goes⟩

/-- What holds when a session begins, and is kept by every step, holds of all sessions. -/
theorem Run.side (run : Run S (opened config) steps d) (hs : d.sessions.get? c = some s)
    (hstart : P {} ⟨{}, []⟩)
    (hstep : ∀ x y side side', P x side → side.Goes y side' → P (x ++ y) side') :
    P (traffic c steps) ⟨s, d.queued c⟩ := by
  -- as long as the client has not come there is nothing to say, so that is carried along
  suffices h : (d.sessions.get? c = none → traffic c steps = {}) ∧
      ∀ s, d.sessions.get? c = some s → P (traffic c steps) ⟨s, d.queued c⟩ from h.2 s hs
  clear hs
  induction run with
  | nil => exact ⟨fun _ => rfl, fun s hs => absurd hs (Option.some_ne_none s).symm⟩
  | @snoc steps t run possible ih =>
    obtain ⟨hnone, hsome⟩ := ih
    have attended := run.attended (attended_opened S config)
    rw [traffic_snoc]
    cases hs : t.before.sessions.get? c with
    | none =>
      obtain ⟨htraffic, hqueued, habsent⟩ := possible.of_absent attended hs
      rw [hnone hs, htraffic, hqueued]
      refine ⟨fun _ => rfl, fun s hs' => ?_⟩
      rcases habsent with habsent | ⟨hnew, -⟩
      · rw [habsent] at hs'
        cases hs'
      · rw [hnew] at hs'
        cases hs'
        exact hstart
    | some s₁ =>
      obtain ⟨s₂, hs₂, goes⟩ := possible.goes attended hs
      rw [hs₂]
      refine ⟨nofun, fun s hs' => ?_⟩
      cases hs'
      exact hstep _ _ _ _ (hsome s₁ hs) goes

end Runs

end Daemon

end InputBridge
