-- SUMMARY: Steps and runs of the daemon, with the broker's turns as a run of the broker.
import InputBridge.Daemon
import InputBridge.Proofs.Broker.Run

/-!
# Runs of the daemon

The daemon goes on by steps in any order. In some of them it is the broker's turn: it takes
the oldest request, notice or departure and does one step of its own. So a run of the daemon
is a run of the broker, with steps of the sessions in between.
-/

namespace InputBridge

namespace Daemon

variable {σ : Type}

/-! ## Turns of the broker -/

/-- What the broker does next in a step, if it is its turn and there is something to do. -/
def next? (d : Daemon) : Action → Option Broker.Action
  | .handleRequest => d.requests.head?.map fun (c, m) => .message c m
  | .handleNotice => d.notices.head?.map fun
    | (seat, .event e) => .event seat e
    | (seat, .failed _) => .failure seat
  | .handleDeparture => d.departures.head?.map .departure
  | _ => none

/-- What the broker does in a step. -/
def turn? (S : DisplayServer σ) (d : Daemon) (w : World σ) (action : Action) :
    Option Broker.Step :=
  (d.next? action).bind fun a => d.broker.stepOf? S a w

/-- The action is what the broker does next with the oldest entry of a queue. -/
def IsNext (d : Daemon) : Broker.Action → Prop
  | .message c m => d.requests.head? = some (c, m)
  | .event seat e => d.notices.head? = some (seat, .event e)
  | .failure seat => ∃ reason, d.notices.head? = some (seat, .failed reason)
  | .departure c => d.departures.head? = some c

/-- What becomes of the daemon by a step of the broker. -/
def follow (d : Daemon) (b : Broker.Step) : Daemon :=
  match b.action with
  | .message c _ =>
    let d := { d with broker := b.after, requests := d.requests.tail }
    (d.change c fun s => { s with answer := b.answer }).deliver b.out
  | .event .. | .failure _ =>
    { d with broker := b.after, notices := d.notices.tail }.deliver b.out
  | .departure _ => { d with broker := b.after, departures := d.departures.tail }

/-- What becomes of the daemon when it is not the broker's turn, or there is nothing to do. -/
def pass (d : Daemon) : Action → Daemon
  | .accept => { d with
      sessions := d.sessions.insert d.nextClient {}, nextClient := d.nextClient + 1 }
  | .arrive c bytes => d.change c fun s => { s with reader := s.reader.feed bytes }
  | .hangUp c => d.change c fun s => { s with hungUp := true }
  | .leave c => d.change c fun s => { s with hungUp := true, gone := true }
  | .report seat notice => { d with notices := d.notices ++ [(seat, notice)] }
  | .read c => d.onSession c Session.read
  | .writeAnswer c => d.onSession c fun s => (s.writeAnswer, none)
  | .writePush c => d.onSession c fun s => (s.writePush, none)
  | .handleRequest | .handleNotice | .handleDeparture => d

/-- An action with the states around it. -/
structure Step where
  before : Daemon
  action : Action
  /-- What the broker does. -/
  turn : Option Broker.Step
  after : Daemon
  deriving Repr, Inhabited

/-- The step that the daemon takes with an action in a state of the display servers, unless it
overflows. -/
def stepOf? (S : DisplayServer σ) (d : Daemon) (action : Action) (w : World σ) : Option Step :=
  match ((d.step S action).run w).1 with
  | .error _ => none
  | .ok after => some { before := d, action, turn := d.turn? S w action, after }

def Step.Possible (S : DisplayServer σ) (t : Step) : Prop :=
  ∃ w, t.before.stepOf? S t.action w = some t

/-- The messages that the broker sends unasked. -/
def Step.out (t : Step) : List Outbound := (t.turn.map (·.out)).getD []

/-! ## What sessions leave alone -/

section Sessions

variable {d : Daemon} {c : ClientId} {out : List Outbound}

/-- A session that is changed is all that changes. -/
theorem change_frame (d : Daemon) (c : ClientId) (f : Session → Session) :
    ∃ sessions, d.change c f = { d with sessions } := by
  unfold change
  split
  · exact ⟨d.sessions, rfl⟩
  · exact ⟨_, rfl⟩

theorem onSession_frame (d : Daemon) (c : ClientId) (f : Session → Session × Option Message) :
    ∃ sessions requests departures,
      d.onSession c f = { d with sessions, requests, departures } := by
  unfold onSession
  split
  · exact ⟨d.sessions, d.requests, d.departures, rfl⟩
  · exact ⟨_, _, _, rfl⟩

theorem deliver_frame (d : Daemon) (out : List Outbound) :
    ∃ sessions, d.deliver out = { d with sessions } := by
  unfold deliver
  induction out generalizing d with
  | nil => exact ⟨d.sessions, rfl⟩
  | cons o out ih =>
    obtain ⟨sessions, hchange⟩ := d.change_frame o.target fun s =>
      if s.phase = .ended then s else { s with pushes := s.pushes ++ [o.message] }
    rw [List.foldl_cons, hchange]
    exact ih { d with sessions }

@[simp] theorem broker_change {f : Session → Session} : (d.change c f).broker = d.broker := by
  obtain ⟨sessions, h⟩ := d.change_frame c f
  rw [h]

@[simp] theorem broker_onSession {f : Session → Session × Option Message} :
    (d.onSession c f).broker = d.broker := by
  obtain ⟨sessions, requests, departures, h⟩ := d.onSession_frame c f
  rw [h]

@[simp] theorem broker_deliver : (d.deliver out).broker = d.broker := by
  obtain ⟨sessions, h⟩ := d.deliver_frame out
  rw [h]

end Sessions

/-! ## Steps -/

section Steps

variable {S : DisplayServer σ} {d : Daemon} {w : World σ} {action : Action} {t : Step}
  {a : Broker.Action} {b : Broker.Step}

theorem isNext_of_next? (h : d.next? action = some a) : d.IsNext a := by
  cases action with
  | handleRequest =>
    obtain ⟨⟨c, m⟩, hnext, rfl⟩ := Option.map_eq_some_iff.mp h
    exact hnext
  | handleNotice =>
    obtain ⟨⟨seat, notice⟩, hnext, rfl⟩ := Option.map_eq_some_iff.mp h
    cases notice with
    | event e => exact hnext
    | failed reason => exact ⟨reason, hnext⟩
  | handleDeparture =>
    obtain ⟨c, hnext, rfl⟩ := Option.map_eq_some_iff.mp h
    -- the head of the queue is what the action is about, in each of the three queues
    exact hnext
  | accept | arrive | hangUp | leave | report | read | writeAnswer | writePush => cases h

/-- Where the broker has something to do the daemon follows it, also into an overflow. -/
theorem step_of_next (h : d.next? action = some a) (w : World σ) :
    ((d.step S action).run w).1 = ((d.broker.act S a).run w).1.map fun (answer, out, after) =>
      d.follow { before := d.broker, action := a, answer, out, after } := by
  cases action with
  | handleRequest =>
    obtain ⟨⟨c, m⟩, hnext, rfl⟩ := Option.map_eq_some_iff.mp h
    obtain ⟨requests, hrequests⟩ := List.head?_eq_some_iff.mp hnext
    simp only [step, handleRequest, hrequests, follow, List.tail_cons]
    rfl
  | handleNotice =>
    obtain ⟨⟨seat, notice⟩, hnext, rfl⟩ := Option.map_eq_some_iff.mp h
    obtain ⟨notices, hnotices⟩ := List.head?_eq_some_iff.mp hnext
    cases notice with
    | event e =>
      simp only [step, handleNotice, hnotices, follow, List.tail_cons, Broker.act,
        ExceptT.run_bind, Talk.bind_apply]
      -- only events are answered by something that can overflow
      cases ((d.broker.dispatch S seat e).run w).1 <;> rfl
    | failed reason =>
      simp only [step, handleNotice, hnotices, follow, List.tail_cons]
      rfl
  | handleDeparture =>
    obtain ⟨c, hnext, rfl⟩ := Option.map_eq_some_iff.mp h
    obtain ⟨departures, hdepartures⟩ := List.head?_eq_some_iff.mp hnext
    simp only [step, handleDeparture, hdepartures, follow, List.tail_cons]
    rfl
  -- these never lead to an action of the broker
  | accept | arrive | hangUp | leave | report | read | writeAnswer | writePush => cases h

theorem step_of_not_next (h : d.next? action = none) (w : World σ) :
    ((d.step S action).run w).1 = .ok (d.pass action) := by
  cases action with
  | handleRequest =>
    have hnone := List.head?_eq_none_iff.mp (Option.map_eq_none_iff.mp h)
    simp only [step, handleRequest, hnone]
    rfl
  | handleNotice =>
    have hnone := List.head?_eq_none_iff.mp (Option.map_eq_none_iff.mp h)
    simp only [step, handleNotice, hnone]
    rfl
  | handleDeparture =>
    have hnone := List.head?_eq_none_iff.mp (Option.map_eq_none_iff.mp h)
    simp only [step, handleDeparture, hnone]
    rfl
  | accept | arrive | hangUp | leave | report | read | writeAnswer | writePush => rfl

theorem of_stepOf? (h : d.stepOf? S action w = some t) :
    t.before = d ∧ t.action = action ∧ t.turn = d.turn? S w action ∧
      ((d.step S action).run w).1 = .ok t.after := by
  unfold stepOf? at h
  split at h
  · cases h
  · next heq =>
    cases h
    exact ⟨rfl, rfl, rfl, heq⟩

theorem stepOf?_possible (h : d.stepOf? S action w = some t) : t.Possible S := by
  obtain ⟨rfl, rfl, -⟩ := of_stepOf? h
  exact ⟨w, h⟩

theorem of_turn? (h : d.turn? S w action = some b) : d.next? action = some b.action ∧
    b.before = d.broker ∧
      ((d.broker.act S b.action).run w).1 = .ok (b.answer, b.out, b.after) := by
  obtain ⟨a, hnext, hb⟩ := Option.bind_eq_some_iff.mp h
  obtain ⟨hbefore, rfl, hact⟩ := Broker.of_stepOf? hb
  exact ⟨hnext, hbefore, hact⟩

theorem Step.Possible.next?_of_turn (possible : t.Possible S) (hturn : t.turn = some b) :
    t.before.next? t.action = some b.action := by
  obtain ⟨w, hstep⟩ := possible
  obtain ⟨-, -, hturn', -⟩ := of_stepOf? hstep
  exact (of_turn? (hturn'.symm.trans hturn)).1

/-- In its turn the broker does the first thing that there is to do. -/
theorem Step.Possible.of_turn (possible : t.Possible S) (hturn : t.turn = some b) :
    b.Possible S ∧ b.before = t.before.broker ∧ t.before.IsNext b.action ∧
      t.after = t.before.follow b := by
  obtain ⟨w, hstep⟩ := possible
  obtain ⟨-, -, hturn', hafter⟩ := of_stepOf? hstep
  obtain ⟨hnext, hbefore, hact⟩ := of_turn? (hturn'.symm.trans hturn)
  rw [step_of_next hnext w, hact, ← hbefore] at hafter
  exact ⟨⟨w, hbefore ▸ hact⟩, hbefore, isNext_of_next? hnext, (Except.ok.inj hafter).symm⟩

/-- When it is not the broker's turn, or there is nothing to do, the daemon goes on without. -/
theorem Step.Possible.of_no_turn (possible : t.Possible S) (hturn : t.turn = none) :
    t.after = t.before.pass t.action := by
  obtain ⟨w, hstep⟩ := possible
  obtain ⟨-, -, hturn', hafter⟩ := of_stepOf? hstep
  cases hnext : t.before.next? t.action with
  | none =>
    rw [step_of_not_next hnext w] at hafter
    exact (Except.ok.inj hafter).symm
  | some a =>
    -- the broker has something to do, so a step without a turn of it has overflowed, and then the
    -- daemon has no state after it either
    rw [turn?, hnext, hturn, Option.bind_some, Broker.stepOf?] at hturn'
    rw [step_of_next hnext w] at hafter
    cases hact : ((t.before.broker.act S a).run w).1 with
    | error e =>
      rw [hact] at hafter
      cases hafter
    | ok r =>
      rw [hact] at hturn'
      cases hturn'

theorem broker_pass (d : Daemon) (action : Action) : (d.pass action).broker = d.broker := by
  cases action with
  | arrive | hangUp | leave => exact broker_change
  | read | writeAnswer | writePush => exact broker_onSession
  | accept | report | handleRequest | handleNotice | handleDeparture => rfl

theorem Step.Possible.broker_of_no_turn (possible : t.Possible S) (hturn : t.turn = none) :
    t.after.broker = t.before.broker := by
  rw [possible.of_no_turn hturn, broker_pass]

end Steps

theorem broker_follow (d : Daemon) (b : Broker.Step) : (d.follow b).broker = b.after := by
  unfold follow
  split <;> simp

/-! ## Runs -/

/-- The steps that lead from one state of the daemon to another. -/
inductive Run (S : DisplayServer σ) (start : Daemon) : List Step → Daemon → Prop where
  | nil : Run S start [] start
  | snoc {steps : List Step} {t : Step} :
      Run S start steps t.before → t.Possible S → Run S start (steps ++ [t]) t.after

/-- A daemon that no client has come to. -/
def opened (config : BrokerConfig) : Daemon where
  broker := { config }

variable {S : DisplayServer σ} {start d : Daemon} {steps : List Step}

/-- A run is cut at any of its steps. -/
theorem Run.split {earlier later : List Step} {t : Step}
    (run : Run S start (earlier ++ t :: later) d) :
    Run S start earlier t.before ∧ t.Possible S ∧ Run S t.after later d := by
  generalize hsteps : earlier ++ t :: later = steps at run
  induction run generalizing later with
  | nil => simp at hsteps
  | snoc run possible ih =>
    rcases Broker.snoc_eq_append_cons hsteps with ⟨rfl, rfl, rfl⟩ | ⟨middle, rfl, hinit⟩
    · exact ⟨run, possible, .nil⟩
    · obtain ⟨before, ht, after⟩ := ih hinit
      exact ⟨before, ht, after.snoc possible⟩

/-- The turns of the broker are a run of the broker. -/
theorem Run.broker (run : Run S start steps d) :
    Broker.Run S start.broker (steps.filterMap (·.turn)) d.broker := by
  induction run with
  | nil => exact .nil
  | @snoc steps t _ possible ih =>
    rw [List.filterMap_append]
    -- steps that are no turn of the broker drop out of the list
    cases hturn : t.turn with
    | none =>
      rw [possible.broker_of_no_turn hturn]
      simpa [hturn] using ih
    | some b =>
      obtain ⟨hpossible, hbefore, -, hafter⟩ := possible.of_turn hturn
      rw [hafter, broker_follow]
      rw [← hbefore] at ih
      simpa [hturn] using ih.snoc hpossible

theorem Run.reachable {config : BrokerConfig} (run : Run S (opened config) steps d) :
    Broker.Reachable S d.broker :=
  ⟨config, _, run.broker⟩

/-! ## Playing -/

/-- The steps that the daemon takes with actions, each in a state of the display servers of
its own, up to one that overflows. -/
def play (S : DisplayServer σ) (d : Daemon) : List (Action × World σ) → List Step
  | [] => []
  | (action, w) :: rest =>
    match d.stepOf? S action w with
    | none => []
    | some t => t :: play S t.after rest

/-- The state after the last of some steps. -/
def finish (d : Daemon) (steps : List Step) : Daemon := steps.foldl (fun _ t => t.after) d

theorem Run.play (run : Run S start steps d) (actions : List (Action × World σ)) :
    Run S start (steps ++ d.play S actions) (d.finish (d.play S actions)) := by
  induction actions generalizing steps d with
  | nil => simpa [Daemon.play, finish] using run
  | cons first rest ih =>
    obtain ⟨action, w⟩ := first
    rw [Daemon.play]
    cases hstep : d.stepOf? S action w with
    | none => simpa [finish] using run
    | some t =>
      obtain ⟨rfl, -⟩ := of_stepOf? hstep
      have stepped : Run S start (steps ++ [t]) t.after := .snoc run (stepOf?_possible hstep)
      simpa [finish] using ih stepped

theorem run_play (S : DisplayServer σ) (d : Daemon) (actions : List (Action × World σ)) :
    Run S d (d.play S actions) (d.finish (d.play S actions)) :=
  Run.nil.play actions

end Daemon

end InputBridge
