-- SUMMARY: A client takes what comes unasked in order, and for each request the first response with its id.
import InputBridge.Client.Conversation
import InputBridge.Proofs.Faults
import InputBridge.Proofs.Overflow
import Mathlib.Control.Monad.Basic

/-!
# What a client hears

A client meets what it has not asked for in two places: while it waits for a response, and when
it looks for it. What it meets while it waits goes to the end of a queue, and it looks into the
queue before it looks further. So it takes everything in the order of arrival, whatever its
requests come to. A request is not made any more when there is no id left for it; that ends the
client, and so long as fewer requests have been made than there are ids it does not happen.
-/

namespace InputBridge

/-! ## What arrives -/

/-- Whether the message is no response. -/
def Message.isUnasked : Message → Bool
  | .response _ => false
  | _ => true

/-- The messages that have arrived unasked, in order. -/
def Incoming.unasked (arrived : List Incoming) : List Message :=
  arrived.filterMap fun
    | .message m => if m.isUnasked then some m else none
    | _ => none

/-- The connection has failed, so that there is no response. -/
def ClientError.IsTransport : ClientError → Prop
  | .notSent .. | .lost .. | .hungUp _ => True
  | _ => False

namespace Conversation

open Incoming (unasked)

variable {what : String} {id : UInt32} {x : Incoming} {arrived : List Incoming}
  {c c' start : Conversation}

theorem unasked_append (arrived more : List Incoming) :
    unasked (arrived ++ more) = unasked arrived ++ unasked more := List.filterMap_append

theorem unasked_message (m : Message) :
    unasked [.message m] = [m].filter Message.isUnasked := by
  cases m <;> rfl

theorem isUnasked_of_mem {m : Message} (h : m ∈ unasked arrived) : m.isUnasked = true := by
  obtain ⟨x, -, hx⟩ := List.mem_filterMap.mp h
  cases x with
  | message m' =>
    obtain ⟨hm, rfl⟩ : m'.isUnasked = true ∧ m' = m := by simpa using hx
    exact hm
  | failed | ended => cases hx

/-! ## Waiting -/

/-- How waiting for the response with an id ends: what has arrived by then, and the result. -/
inductive Waited (what : String) (id : UInt32) :
    List Incoming → Except ClientError Response → Prop where
  | found {r : Response} (hid : r.id = id) : Waited what id [.message (.response r)] (.ok r)
  | failed (e : LineError) : Waited what id [.failed e] (.error (.lost what e))
  | ended : Waited what id [.ended] (.error (.hungUp what))
  /-- Nothing arrives any more. -/
  | silent : Waited what id [] (.error (.hungUp what))
  | stale {r : Response} {arrived : List Incoming} {result : Except ClientError Response}
      (hid : r.id ≠ id) : Waited what id arrived result →
        Waited what id (.message (.response r) :: arrived) result
  | kept {m : Message} {arrived : List Incoming} {result : Except ClientError Response}
      (hm : m.isUnasked = true) : Waited what id arrived result →
        Waited what id (.message m :: arrived) result

/-- Whoever waits keeps what arrives unasked, in order, behind what was kept before. -/
theorem await_waited (what : String) (id : UInt32) (incoming : List Incoming)
    (pushes : List Message) :
    ∃ arrived rest result, incoming = arrived ++ rest ∧
      await what id incoming pushes = (result, rest, pushes ++ unasked arrived) ∧
      Waited what id arrived result := by
  fun_induction await what id incoming pushes with
  | case1 pushes => exact ⟨[], [], _, rfl, by simp [unasked], .silent⟩
  | case2 rest pushes => exact ⟨[.ended], rest, _, rfl, by simp [unasked], .ended⟩
  | case3 e rest pushes => exact ⟨[.failed e], rest, _, rfl, by simp [unasked], .failed e⟩
  | case4 r rest pushes hid =>
    exact ⟨[.message (.response r)], rest, _, rfl, by simp [unasked, Message.isUnasked],
      .found hid⟩
  | case5 r rest pushes hid ih =>
    obtain ⟨arrived, rest, result, rfl, heq, waited⟩ := ih
    -- a response with another id is dropped
    exact ⟨.message (.response r) :: arrived, rest, result, rfl, heq, .stale hid waited⟩
  | case6 m rest pushes hm ih =>
    obtain ⟨arrived, rest, result, rfl, heq, waited⟩ := ih
    -- what is no response is kept for `nextPush`
    have hunasked : m.isUnasked = true := by
      cases m with
      | response r => exact absurd rfl (hm r)
      | _ => rfl
    refine ⟨.message m :: arrived, rest, result, rfl, ?_, .kept hunasked waited⟩
    rw [heq, List.append_assoc]
    simp [unasked, hunasked]

/-- No response with the id has arrived. -/
def Missed (id : UInt32) (arrived : List Incoming) : Prop :=
  ∀ r, .message (.response r) ∈ arrived → r.id ≠ id

theorem Missed.cons (h : Missed id arrived)
    (hx : ∀ r, .message (.response r) = x → r.id ≠ id) : Missed id (x :: arrived) := by
  intro r hr
  rcases List.mem_cons.mp hr with heq | hr
  · exact hx r heq
  · exact h r hr

/-- The last of what has arrived is the first response with the id, or there is none and the
connection has failed. -/
def Settles (id : UInt32) (arrived : List Incoming) (result : Except ClientError Response) : Prop :=
  (∃ skipped r, arrived = skipped ++ [.message (.response r)] ∧ r.id = id ∧ Missed id skipped ∧
    result = .ok r) ∨
  ∃ e, result = .error e ∧ e.IsTransport ∧ Missed id arrived

theorem Settles.cons {result : Except ClientError Response} (h : Settles id arrived result)
    (hx : ∀ r, .message (.response r) = x → r.id ≠ id) : Settles id (x :: arrived) result := by
  rcases h with ⟨skipped, r, rfl, hid, missed, rfl⟩ | ⟨e, rfl, transport, missed⟩
  · exact .inl ⟨x :: skipped, r, rfl, hid, missed.cons hx, rfl⟩
  · exact .inr ⟨e, rfl, transport, missed.cons hx⟩

theorem Waited.settles {result : Except ClientError Response}
    (waited : Waited what id arrived result) : Settles id arrived result := by
  induction waited with
  | found hid => exact .inl ⟨[], _, rfl, hid, by simp [Missed], rfl⟩
  | failed | ended | silent => exact .inr ⟨_, rfl, trivial, by simp [Missed]⟩
  -- what was passed over before the answer came had another id
  | stale hid _ ih =>
    refine ih.cons fun r heq => ?_
    cases heq
    exact hid
  | kept hm _ ih =>
    refine ih.cons fun r heq => ?_
    cases heq
    cases hm

/-! ## Requests -/

/-- A message is sent, or everything stays as it was. -/
theorem send_cases (c : Conversation) (m : Message) :
    (∃ e, c.send m = (.error e, c)) ∨
      ∃ patience, c.send m = (.ok (), { c with patience, sent := c.sent ++ [m] }) := by
  unfold send
  split
  · exact .inl ⟨_, rfl⟩
  · exact .inl ⟨_, rfl⟩
  · exact .inr ⟨_, rfl⟩

/-- Between two states of the conversation these things have arrived and these messages were
taken. What is unasked among the former comes behind the queue, and what is unasked among the
latter came from its front. -/
structure Hears (c : Conversation) (arrived : List Incoming) (taken : List Message)
    (c' : Conversation) : Prop where
  incoming : c.incoming = arrived ++ c'.incoming
  pushes : c.pushes ++ unasked arrived = taken.filter Message.isUnasked ++ c'.pushes

theorem Hears.refl (c : Conversation) : Hears c [] [] c := ⟨rfl, by simp [unasked]⟩

theorem Hears.trans {arrived more : List Incoming} {taken later : List Message}
    {c'' : Conversation} (h : Hears c arrived taken c') (h' : Hears c' more later c'') :
    Hears c (arrived ++ more) (taken ++ later) c'' := by
  refine ⟨by rw [h.incoming, h'.incoming, List.append_assoc], ?_⟩
  calc c.pushes ++ unasked (arrived ++ more)
    _ = c.pushes ++ unasked arrived ++ unasked more := by rw [unasked_append, List.append_assoc]
    _ = taken.filter Message.isUnasked ++ (c'.pushes ++ unasked more) := by
      rw [h.pushes, List.append_assoc]
    _ = (taken ++ later).filter Message.isUnasked ++ c''.pushes := by
      rw [h'.pushes, List.filter_append, List.append_assoc]

/-- No response comes into the queue. -/
theorem Hears.queue {taken : List Message} (h : Hears c arrived taken c')
    (hqueue : ∀ m ∈ c.pushes, m.isUnasked = true) : ∀ m ∈ c'.pushes, m.isUnasked = true := by
  intro m hm
  have hmem : m ∈ c.pushes ++ unasked arrived := h.pushes ▸ List.mem_append_right _ hm
  rcases List.mem_append.mp hmem with hm | hm
  · exact hqueue m hm
  · exact isUnasked_of_mem hm

/-- A request that is answered takes the first response with its id among what arrives after it
was sent. -/
structure Answers (c : Conversation) (message : UInt32 → Message) (r : Response)
    (c' : Conversation) : Prop where
  sent : c'.sent = c.sent ++ [message c.nextId]
  id : r.id = c.nextId
  first : ∃ skipped, c.incoming = skipped ++ .message (.response r) :: c'.incoming ∧
    Missed c.nextId skipped

/-- A request fails with the connection if no response with its id has arrived by then. -/
def FailsUnanswered (c : Conversation) (e : ClientError) (c' : Conversation) : Prop :=
  e.IsTransport ∧ ∃ arrived, c.incoming = arrived ++ c'.incoming ∧ Missed c.nextId arrived

theorem request_hears {message : UInt32 → Message} {result : Except ClientError Response}
    (h : c.request what message = .ok (result, c')) :
    (∃ arrived, Hears c arrived [] c') ∧
      ((∃ e, result = .error e ∧ FailsUnanswered c e c') ∨
        ∃ r, result = granted what r ∧ Answers c message r c') := by
  -- the id was given out when it is sent, so a request that cannot be sent uses it up too
  obtain ⟨nextId, -, h⟩ := of_bind_eq_ok h
  rcases send_cases { c with nextId } (message c.nextId) with
    ⟨e, hsend⟩ | ⟨patience, hsend⟩
  · rw [hsend] at h
    cases h
    -- nothing was read, so nothing is missed or queued
    exact ⟨⟨[], by simp, by simp [unasked]⟩, .inl ⟨_, rfl, trivial, [], rfl, by simp [Missed]⟩⟩
  · rw [hsend] at h
    dsimp only at h
    obtain ⟨arrived, rest, response, hincoming, hawait, waited⟩ :=
      await_waited what c.nextId c.incoming c.pushes
    rw [hawait] at h
    cases h
    refine ⟨⟨arrived, hincoming, rfl⟩, ?_⟩
    rcases waited.settles with
      ⟨skipped, r, rfl, hid, missed, rfl⟩ | ⟨e, rfl, transport, missed⟩
    · exact .inr ⟨r, rfl, rfl, hid, skipped, by simpa using hincoming, missed⟩
    · exact .inl ⟨e, rfl, transport, arrived, hincoming, missed⟩

/-! ## Taking what was not asked for -/

theorem nextPush_hears {result : Except ClientError (Option Message)}
    (hqueue : ∀ m ∈ c.pushes, m.isUnasked = true) (h : c.nextPush = (result, c')) :
    ∃ arrived, Hears c arrived (result.toOption.join.toList) c' := by
  unfold nextPush at h
  split at h
  · next m pushes hpushes =>
    cases h
    -- what was queued earlier goes first, and nothing is read
    have hm : m.isUnasked = true := hqueue m (hpushes ▸ List.mem_cons_self)
    exact ⟨[], rfl, by simp [hpushes, unasked, hm, Except.toOption]⟩
  · next hpushes =>
    unfold next at h
    cases hincoming : c.incoming with
    | nil =>
      rw [hincoming] at h
      cases h
      exact ⟨[], by simp [hincoming], by simp [hpushes, unasked, Except.toOption]⟩
    -- the queue is empty, so what arrives is handed on at once
    | cons x incoming =>
      rw [hincoming] at h
      cases x with
      | message m =>
        cases h
        refine ⟨[.message m], hincoming, ?_⟩
        rw [hpushes, unasked_message]
        simp [Except.toOption]
      | failed e =>
        cases h
        -- what ends the conversation is not a message
        exact ⟨[.failed e], hincoming, by simp [hpushes, unasked, Except.toOption]⟩
      | ended =>
        cases h
        exact ⟨[.ended], hincoming, by simp [hpushes, unasked, Except.toOption]⟩

/-! ## Runs -/

/-- What a client does with its end. -/
inductive Operation where
  | request (what : String) (message : UInt32 → Message)
  | nextPush

def Operation.isRequest : Operation → Bool
  | .request .. => true
  | .nextPush => false

/-- What an operation comes to. -/
inductive Outcome where
  | answered (result : Except ClientError Response)
  | looked (result : Except ClientError (Option Message))
  deriving DecidableEq

/-- The message that whoever looked for one was given. -/
def Outcome.taken : Outcome → List Message
  | .answered _ => []
  | .looked result => result.toOption.join.toList

def perform (c : Conversation) : Operation → Except Overflow (Outcome × Conversation)
  | .request what message => do
    let (result, c) ← c.request what message
    return (.answered result, c)
  | .nextPush =>
    let (result, c) := c.nextPush
    return (.looked result, c)

/-- An operation with the states around it and its outcome. -/
structure Step where
  before : Conversation
  operation : Operation
  outcome : Outcome
  after : Conversation

/-- The steps that lead from one state of the conversation to another. How many messages the
broker still reads may change between them. -/
inductive Run (start : Conversation) : List Step → Conversation → Prop where
  | nil : Run start [] start
  | snoc {steps : List Step} {t : Step} {c : Conversation} {patience : Nat} :
      Run start steps c → t.before = { c with patience } →
        t.before.perform t.operation = .ok (t.outcome, t.after) →
          Run start (steps ++ [t]) t.after

/-- The messages that were taken by whoever looked for them, in order. -/
def takenBy (steps : List Step) : List Message := steps.flatMap (·.outcome.taken)

/-- How many requests were made. -/
def requestsIn (steps : List Step) : Nat := steps.countP (·.operation.isRequest)

variable {message : UInt32 → Message} {result : Except ClientError Response} {outcome : Outcome}
  {steps : List Step} {t : Step}

theorem perform_hears {operation : Operation} (hqueue : ∀ m ∈ c.pushes, m.isUnasked = true)
    (h : c.perform operation = .ok (outcome, c')) :
    ∃ arrived, Hears c arrived outcome.taken c' := by
  cases operation with
  | request what message =>
    obtain ⟨⟨result, c₁⟩, hrequest, h⟩ := of_bind_eq_ok h
    cases h
    exact (request_hears hrequest).1
  | nextPush =>
    cases h
    exact nextPush_hears hqueue rfl

theorem perform_request (h : c.perform (.request what message) = .ok (.answered result, c')) :
    c.request what message = .ok (result, c') := by
  obtain ⟨⟨result', c₁⟩, hrequest, h⟩ := of_bind_eq_ok h
  cases h
  exact hrequest

/-- What has arrived since a state in which nothing was queued is taken or queued. -/
theorem Run.hears (run : Run start steps c) (hempty : start.pushes = []) :
    (∃ arrived, Hears start arrived (takenBy steps) c) ∧ ∀ m ∈ c.pushes, m.isUnasked = true := by
  induction run with
  | nil => exact ⟨⟨[], .refl start⟩, by simp [hempty]⟩
  | @snoc steps t c patience _ hbefore hperform ih =>
    obtain ⟨⟨arrived, earlier⟩, hqueue⟩ := ih
    rw [hbefore] at hperform
    obtain ⟨more, hears⟩ := perform_hears (c := { c with patience }) hqueue hperform
    have last : Hears c more t.outcome.taken t.after := ⟨hears.incoming, hears.pushes⟩
    refine ⟨⟨arrived ++ more, ?_⟩, last.queue hqueue⟩
    rw [takenBy, List.flatMap_append, List.flatMap_singleton]
    exact earlier.trans last

/-- What has not arrived before a step had not arrived at the start. -/
theorem Run.suffix (run : Run start steps c) (hempty : start.pushes = []) (ht : t ∈ steps) :
    t.before.incoming <:+ start.incoming ∧
      t.before.perform t.operation = .ok (t.outcome, t.after) := by
  induction run with
  | nil => cases ht
  | snoc run hbefore hperform ih =>
    rcases List.mem_append.mp ht with ht | ht
    · exact ih ht
    · cases List.mem_singleton.mp ht
      obtain ⟨⟨arrived, hears⟩, -⟩ := run.hears hempty
      rw [hbefore]
      exact ⟨⟨arrived, hears.incoming.symm⟩, hbefore ▸ hperform⟩

/-! ### Ids -/

theorem nextId_send (c : Conversation) (m : Message) : (c.send m).2.nextId = c.nextId := by
  rcases send_cases c m with ⟨e, h⟩ | ⟨patience, h⟩ <;> rw [h]

/-- A request takes one id. -/
theorem nextId_request (h : c.request what message = .ok (result, c')) :
    c'.nextId.toNat = c.nextId.toNat + 1 := by
  obtain ⟨nextId, hnext, h⟩ := of_bind_eq_ok h
  rw [← checkedNext_eq_ok_iff.mp hnext]
  have hsent := nextId_send { c with nextId } (message c.nextId)
  generalize { c with nextId }.send (message c.nextId) = sent at h hsent
  obtain ⟨sending, c₁⟩ := sent
  cases sending <;>
  · cases h
    exact congrArg UInt32.toNat hsent

theorem nextId_nextPush (c : Conversation) : c.nextPush.2.nextId = c.nextId := by
  unfold nextPush next
  split
  · rfl
  · cases c.incoming with
    | nil => rfl
    | cons x incoming => cases x <;> rfl

theorem nextId_perform {operation : Operation} (h : c.perform operation = .ok (outcome, c')) :
    c'.nextId.toNat = c.nextId.toNat + if operation.isRequest then 1 else 0 := by
  cases operation with
  | request what message =>
    obtain ⟨⟨result, c₁⟩, hrequest, h⟩ := of_bind_eq_ok h
    cases h
    exact nextId_request hrequest
  | nextPush =>
    cases h
    exact congrArg UInt32.toNat (nextId_nextPush c)

/-- The ids that have been given out are as many as the requests that were made. -/
theorem Run.nextId (run : Run start steps c) :
    c.nextId.toNat = start.nextId.toNat + requestsIn steps := by
  induction run with
  | nil => rfl
  | @snoc steps t c patience _ hbefore hperform ih =>
    rw [nextId_perform hperform, hbefore, ih, requestsIn, requestsIn, List.countP_append,
      List.countP_singleton, Nat.add_assoc]

/-- A request is made as long as there is an id after its own. -/
theorem exists_request (what : String) (message : UInt32 → Message)
    (hid : c.nextId.toNat + 1 < UInt32.size) :
    ∃ result c', c.request what message = .ok (result, c') := by
  have hnext : checkedNext c.nextId = .ok (c.nextId + 1) := if_pos hid
  cases h : c.request what message with
  | ok r => exact ⟨r.1, r.2, rfl⟩
  | error e =>
    unfold request at h
    dsimp only at h
    rw [hnext] at h
    simp only [bind, Except.bind] at h
    split at h <;> cases h

theorem pushes_send (c : Conversation) (m : Message) : (c.send m).2.pushes = c.pushes := by
  rcases send_cases c m with ⟨e, h⟩ | ⟨patience, h⟩ <;> rw [h]

theorem pushes_next (c : Conversation) : c.next.2.pushes = c.pushes := by
  unfold next
  split <;> rfl

/-- The handshake queues nothing. -/
theorem pushes_of_greet {role : Role} {r : Except ClientError Unit}
    (h : c.greet role = (r, c')) : c'.pushes = c.pushes := by
  unfold greet at h
  have hsent := pushes_send c (.hello 0 protocolVersion role)
  generalize c.send (.hello 0 protocolVersion role) = sent at h hsent
  obtain ⟨sending, c₁⟩ := sent
  cases sending with
  | error e =>
    cases h
    exact hsent
  | ok u =>
    have hnext := pushes_next c₁
    dsimp only at h
    generalize c₁.next = found at h hnext
    -- whatever the answer to the hello is, it is not put into the queue
    refine Eq.trans ?_ (hnext.trans hsent)
    split at h <;>
    · cases h
      rfl

/-- After the handshake, what has arrived unasked was taken, in the order of arrival and with
nothing left out, or is queued. The result of a request is told by the first response with its id
among what arrives after it was sent, or the connection fails before there is one. Another request
can be made until the ids are used up. -/
theorem Run.heard_in_order {fresh : Conversation} {role : Role} (hempty : fresh.pushes = [])
    (greeted : fresh.greet role = (.ok (), start)) (run : Run start steps c) :
    (∃ arrived, start.incoming = arrived ++ c.incoming ∧
      unasked arrived = (takenBy steps).filter Message.isUnasked ++ c.pushes) ∧
    (∀ t ∈ steps, ∀ what message result,
      t.operation = .request what message → t.outcome = .answered result →
        t.before.incoming <:+ start.incoming ∧
        ((∃ e, result = .error e ∧ FailsUnanswered t.before e t.after) ∨
          ∃ r, result = granted what r ∧ Answers t.before message r t.after)) ∧
    (start.nextId.toNat + requestsIn steps + 1 < UInt32.size →
      ∀ patience what message, ∃ result c',
        { c with patience }.request what message = .ok (result, c')) := by
  -- the queue is empty when the handshake is done, and holds nothing but what comes after it
  rw [← pushes_of_greet greeted] at hempty
  refine ⟨?_, ?_, ?_⟩
  · obtain ⟨⟨arrived, hears⟩, -⟩ := run.hears hempty
    refine ⟨arrived, hears.incoming, ?_⟩
    rw [← hears.pushes, hempty, List.nil_append]
  · intro t ht what message result hoperation houtcome
    obtain ⟨hsuffix, hperform⟩ := run.suffix hempty ht
    rw [hoperation, houtcome] at hperform
    exact ⟨hsuffix, (request_hears (perform_request hperform)).2⟩
  · intro hids patience what message
    rw [← run.nextId] at hids
    exact exists_request (c := { c with patience }) what message hids

/-! ## Playing -/

/-- The step that a client takes with an operation while the broker still reads so many
messages, unless there is no id left. -/
def stepOf? (c : Conversation) (patience : Nat) (operation : Operation) : Option Step :=
  let before := { c with patience }
  match before.perform operation with
  | .error _ => none
  | .ok (outcome, after) => some { before, operation, outcome, after }

theorem of_stepOf? {patience : Nat} {operation : Operation}
    (h : c.stepOf? patience operation = some t) :
    t.before = { c with patience } ∧ t.before.perform t.operation = .ok (t.outcome, t.after) := by
  unfold stepOf? at h
  dsimp only at h
  split at h
  · cases h
  · next heq =>
    cases h
    exact ⟨rfl, heq⟩

/-- The steps that a client takes with operations, up to one for which there is no id left. -/
def play (c : Conversation) : List (Nat × Operation) → List Step
  | [] => []
  | (patience, operation) :: rest =>
    match c.stepOf? patience operation with
    | none => []
    | some t => t :: play t.after rest

/-- The state after the last of some steps. -/
def finish (c : Conversation) (steps : List Step) : Conversation :=
  steps.foldl (fun _ t => t.after) c

theorem Run.play (run : Run start steps c) (operations : List (Nat × Operation)) :
    Run start (steps ++ c.play operations) (c.finish (c.play operations)) := by
  induction operations generalizing steps c with
  | nil => simpa [Conversation.play, finish] using run
  | cons first rest ih =>
    obtain ⟨patience, operation⟩ := first
    rw [Conversation.play]
    cases hstep : c.stepOf? patience operation with
    | none => simpa [finish] using run
    | some t =>
      obtain ⟨hbefore, hperform⟩ := of_stepOf? hstep
      simpa [finish] using ih (run.snoc hbefore hperform)

theorem run_play (c : Conversation) (operations : List (Nat × Operation)) :
    Run c (c.play operations) (c.finish (c.play operations)) :=
  Run.nil.play operations

/-- The handshake, a push, the response to another request, a push, a refusal, and a push. -/
def busyBroker : List Incoming :=
  [.message (.helloAck 0 .ok none), .message (.lockState 0 ⟨true, false⟩),
    .message (.response { id := 1 }), .message (.languageChange 0 7 0x409),
    .message (.response (.failure 2 "not attached")), .message (.languageChange 0 7 0x809)]

/-- A client that has said hello to it. -/
def busyClient : Conversation :=
  (greet { incoming := busyBroker, patience := 1 } .client).2

theorem greet_busyClient :
    greet { incoming := busyBroker, patience := 1 } .client = (.ok (), busyClient) := by
  have greeted : (greet { incoming := busyBroker, patience := 1 } .client).1 = .ok () := by
    decide +kernel
  exact Prod.ext greeted (by rw [busyClient])

/-- It asks for something that does not reach the broker, then again, and looks for what it has
not asked for. -/
def busySteps : List Step :=
  busyClient.play
    [(0, .request "clip_cursor" (.clipCursor · none)),
      (1, .request "clip_cursor" (.clipCursor · none)), (0, .nextPush)]

theorem busySteps_heard :
    let c := busyClient.finish busySteps
    busySteps.map (·.outcome) =
      [.answered (.error (.notSent "clip_cursor" .brokenPipe)),
        .answered (.error (.refused "clip_cursor" .error (some "not attached"))),
        .looked (.ok (some (.lockState 0 ⟨true, false⟩)))] ∧
      c.pushes = [.languageChange 0 7 0x409] ∧
      (∃ arrived, busyClient.incoming = arrived ++ c.incoming ∧
        unasked arrived = (takenBy busySteps).filter Message.isUnasked ++ c.pushes) ∧
      ∀ patience what message, ∃ result c',
        { c with patience }.request what message = .ok (result, c') := by
  intro c
  have run : Run busyClient busySteps c := run_play _ _
  obtain ⟨houtcomes, hqueue⟩ :
      busySteps.map (·.outcome) =
        [.answered (.error (.notSent "clip_cursor" .brokenPipe)),
          .answered (.error (.refused "clip_cursor" .error (some "not attached"))),
          .looked (.ok (some (.lockState 0 ⟨true, false⟩)))] ∧
      c.pushes = [.languageChange 0 7 0x409] := by decide +kernel
  obtain ⟨heard, -, hnext⟩ := Run.heard_in_order rfl greet_busyClient run
  exact ⟨houtcomes, hqueue, heard, hnext (by decide +kernel)⟩

end Conversation

end InputBridge
