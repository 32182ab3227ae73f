-- SUMMARY: When a client that connects is attached to a seat that has failed.
import InputBridge.Proofs.Broker.Attachment
import InputBridge.Proofs.SharedSeats.Later

/-!
# Failed seats

A seat that has failed does not recover. One that fails on an event or by a notice
is cut off from its display at once, so nobody takes it again. One that fails while
a request or a departure is handled is not: its display still leads to it, and who
connects to the display next is attached to a seat that does not work.
-/

namespace InputBridge

namespace SharedSeats

variable {p p' : SharedSeats} {id other : SeatId} {seat : Seat} {taken : SeatId → Nat}

/-- The seat was there once, and does not work any more. -/
def Lost (p : SharedSeats) (id : SeatId) : Prop :=
  id < p.nextId ∧ ∀ seat, p.get? id = some seat → seat.failed = true

theorem Lost.later (h : p.Lost id) (later : p.Later p') : p'.Lost id := by
  refine ⟨Nat.lt_of_lt_of_le h.1 later.nextId, ?_⟩
  intro seat' hseat'
  obtain ⟨seat, hseat, continues⟩ := later.seats id seat' h.1 hseat'
  exact continues.failed (h.2 seat hseat)

theorem Sound.lt_nextId (h : p.Sound taken) (hseat : p.get? id = some seat) : id < p.nextId := by
  apply Nat.lt_of_not_le
  intro hle
  rw [h.fresh id hle] at hseat
  cases hseat

/-- No display leads to a seat that has just been marked as failed. -/
theorem of_linked_markFailed (hseat : (p.markFailed id).get? other = some seat)
    (hlink : (p.markFailed id).byDisplay.get? seat.display = some other) :
    id ≠ other ∧ p.get? other = some seat := by
  rw [get?_markFailed] at hseat
  split at hseat
  · next heq =>
    subst heq
    obtain ⟨old, hold, rfl⟩ := Option.map_eq_some_iff.mp hseat
    rw [markFailed_eq hold] at hlink
    exact absurd ⟨rfl, rfl⟩ (byDisplay_unlink.mp hlink).2
  · next hne => exact ⟨hne, hseat⟩

end SharedSeats

namespace Broker

variable {σ : Type} {S : DisplayServer σ} {b b' : Broker} {c : ClientId} {id : SeatId}
  {seat : Seat} {window : WindowId} {handle : Handle} {config : BrokerConfig}
  {steps : List Step} {s : Step}

/-! ## The seats in the course of time -/

theorem Move.later (move : Move S b b') : b.seats.Later b'.seats := by
  cases move with
  | greet | depart => exact .refl _
  | proceed hseat keeps => exact SharedSeats.set_later hseat keeps.toContinues
  | fail id => exact SharedSeats.markFailed_later _ id
  | forget window =>
    rw [seats_forgetWindow]
    exact .refl _
  | stop hseat continues => exact SharedSeats.set_later hseat continues
  | leave _ _ hrelease => exact SharedSeats.release_later hrelease
  | join _ htake => exact SharedSeats.take_later htake

theorem Moves.later (moves : Moves S b b') : b.seats.Later b'.seats :=
  moves.invariant (I := fun b' => b.seats.Later b'.seats) (.refl _)
    fun _ _ h move => h.trans move.later

theorem Step.Possible.later (possible : s.Possible S) : s.before.seats.Later s.after.seats := by
  rcases possible.cases with
    ⟨moves, -⟩ | ⟨c, id, window, handle, -, -, seat, seat', -, hseat, continues, -, -, hafter⟩ |
      ⟨c, id, window, handle, -, -, seat, seat', hseat, -, continues, -, hafter⟩
  · exact moves.later
  · rw [hafter]
    exact SharedSeats.set_later hseat continues
  · rw [hafter, seats_ownWindow]
    exact SharedSeats.set_later hseat continues

/-! ## Failing -/

/-- Whether the action comes from a client and not from a display. -/
def Action.ofClient : Action → Bool
  | .message .. | .departure _ => true
  | .event .. | .failure _ => false

/-- The step leaves a seat failed that had not failed before. -/
def Step.Fails (s : Step) (id : SeatId) : Prop :=
  (∃ seat, s.after.seats.get? id = some seat ∧ seat.failed = true) ∧
    ∀ seat, s.before.seats.get? id = some seat → seat.failed = false

theorem of_linked_dispatch {id' : SeatId} {event : Event} {out : List Outbound}
    (h : (b.dispatch S id' event).Yields (out, b')) (hseat : b'.seats.get? id = some seat)
    (hfailed : seat.failed = true) (hlink : b'.seats.byDisplay.get? seat.display = some id) :
    b.seats.get? id = some seat := by
  rcases dispatch_yields h with ⟨-, -, rfl⟩ | ⟨old, seat', deliveries, -, -, -, rfl⟩
  · exact hseat
  · split at hseat
    · -- the seat of the event has failed and was cut off, so this is another one
      next hfailed' =>
      rw [if_pos hfailed'] at hlink
      obtain ⟨hne, hseat⟩ := SharedSeats.of_linked_markFailed hseat hlink
      rwa [SharedSeats.get?_set, if_neg hne] at hseat
    · next hlive =>
      rw [SharedSeats.get?_set] at hseat
      split at hseat
      · obtain ⟨-, -, rfl⟩ := Option.map_eq_some_iff.mp hseat
        -- the seat went on, so it has not failed
        exact absurd hfailed hlive
      · exact hseat

/-- After an event or a notice, the failed seats that displays lead to are those that
had failed before. -/
theorem Step.Possible.of_linked (possible : s.Possible S) (hdisplay : s.action.ofClient = false)
    (hseat : s.after.seats.get? id = some seat) (hfailed : seat.failed = true)
    (hlink : s.after.seats.byDisplay.get? seat.display = some id) :
    s.before.seats.get? id = some seat := by
  obtain ⟨before, action, answer, out, after⟩ := s
  cases action with
  | message | departure => cases hdisplay
  | failure id' =>
    obtain rfl : after = before.markFailed id' := congrArg (·.2.2) (Checked.Yields.of_pure possible)
    exact (SharedSeats.of_linked_markFailed hseat hlink).2
  | event id' e =>
    obtain ⟨⟨out', b₁⟩, hdispatch, h⟩ := Checked.Yields.of_bind possible
    cases h.of_pure
    exact of_linked_dispatch hdispatch hseat hfailed hlink

/-- A failed seat that a display still leads to has failed while the broker handled a
request or a departure. -/
theorem Run.failed_of_linked (run : Run S { config } steps b) (hseat : b.seats.get? id = some seat)
    (hfailed : seat.failed = true) (hlink : b.seats.byDisplay.get? seat.display = some id) :
    ∃ s ∈ steps, s.action.ofClient = true ∧ s.Fails id := by
  induction run generalizing seat with
  | nil => cases hseat
  | @snoc steps s run possible ih =>
    have earlier : s.before.seats.Sound s.before.headcount :=
      (Reachable.balanced ⟨config, steps, run⟩).seats
    -- either the seat had failed before the last step, or it fails in it
    by_cases hold : ∃ old, s.before.seats.get? id = some old ∧ old.failed = true
    · -- it had failed before this step, and was linked then too, as links are not made anew
      obtain ⟨old, hold, holdFailed⟩ := hold
      have hid : id < s.before.seats.nextId := earlier.lt_nextId hold
      obtain ⟨old', hold', continues⟩ := possible.later.seats id seat hid hseat
      obtain rfl : old = old' := Option.some.inj (hold.symm.trans hold')
      have hlinked := possible.later.links id seat.display hid hlink
      rw [continues.display] at hlinked
      obtain ⟨s', hs', hfails⟩ := ih hold holdFailed hlinked
      exact ⟨s', List.mem_append_left _ hs', hfails⟩
    · have fails : s.Fails id :=
        ⟨⟨seat, hseat, hfailed⟩, fun old h => by simpa using fun hf => hold ⟨old, h, hf⟩⟩
      refine ⟨s, by simp, ?_, fails⟩
      -- an event or a notice would have cut the seat off
      apply Bool.of_not_eq_false
      intro hdisplay
      refine hold ⟨seat, ?_, hfailed⟩
      exact possible.of_linked hdisplay hseat hfailed hlink

/-- A seat that failed in the course of a run is lost at its end. -/
theorem Run.lost_of_fails (run : Run S { config } steps b) (hs : s ∈ steps) (hfails : s.Fails id) :
    b.seats.Lost id := by
  induction run with
  | nil => cases hs
  | @snoc steps s' run possible ih =>
    rcases List.mem_append.mp hs with hs | hs
    -- a seat that is lost stays so
    · exact (ih hs).later possible.later
    · obtain rfl : s = s' := by simpa using hs
      obtain ⟨⟨seat, hseat, hfailed⟩, -⟩ := hfails
      have sound := (Reachable.balanced ⟨config, _, run.snoc possible⟩).seats
      refine ⟨sound.lt_nextId hseat, ?_⟩
      intro seat' hseat'
      rw [hseat] at hseat'
      cases hseat'
      exact hfailed

/-! ## Connecting -/

/-- Who is told that it is connected is attached to the seat that the display leads to. -/
theorem onConnect_ok {requestId : UInt32} {display : String} {answer : Response}
    {out : List Outbound}
    (h : (b.onConnect S c requestId display).Yields (.response answer, out, b'))
    (hok : answer.status = .ok) :
    ∃ id, b'.seatOf c = some id ∧ b'.seats.byDisplay.get? display = some id := by
  rcases onConnect_yields h with ⟨-, hanswer, -⟩ | ⟨-, r, hattach, hwelcome⟩
  · cases hanswer
    cases hok
  cases hwelcome with
  | refused => cases hok
  | @connected id =>
    refine ⟨id, seatOf_of_attach hattach, ?_⟩
    -- a client is attached only to the seat that was taken for the display
    obtain ⟨b₁, -, ⟨e, hr, -⟩ | ⟨id', seats, hr, htake, rfl⟩⟩ := attach_yields hattach
    · cases hr
    · cases hr
      exact SharedSeats.byDisplay_take htake

/-- Whoever connects is attached to a seat of the display. It works unless it failed
while the broker handled a request or a departure, be it this very request. -/
theorem Run.connected_failed_iff {requestId : UInt32} {display : String} {answer : Response}
    (run : Run S { config } steps s.before) (possible : s.Possible S)
    (haction : s.action = .message c (.connect requestId display))
    (hanswer : s.answer = some (.response answer)) (hok : answer.status = .ok) :
    ∃ id seat, s.after.seatOf c = some id ∧ s.after.seats.get? id = some seat ∧
      seat.display = display ∧
      (seat.failed = true ↔ ∃ s' ∈ steps ++ [s], s'.action.ofClient = true ∧ s'.Fails id) := by
  have run' : Run S { config } (steps ++ [s]) s.after := run.snoc possible
  have sound := (Reachable.balanced ⟨config, _, run'⟩).seats
  have connected : ∃ id, s.after.seatOf c = some id ∧
      s.after.seats.byDisplay.get? display = some id := by
    obtain ⟨before, action, reply, out, after⟩ := s
    cases haction
    cases hanswer
    obtain ⟨⟨reply', out', b₁⟩, hconnect, h⟩ := Checked.Yields.of_bind possible
    cases h.of_pure
    exact onConnect_ok hconnect.of_talk hok
  obtain ⟨id, hid, hlink⟩ := connected
  -- a display leads only to a seat of its own that is there
  obtain ⟨seat, hseat, rfl⟩ := sound.linked display id hlink
  refine ⟨id, seat, hid, hseat, rfl, ?_, ?_⟩
  · -- its display leads to it, so no event or notice has made it fail
    intro hfailed
    exact run'.failed_of_linked hseat hfailed hlink
  · rintro ⟨s', hs', -, hfails⟩
    exact (run'.lost_of_fails hs' hfails).2 seat hseat

/-- A client registers a window, and the flush after it is refused. -/
def brokenPipe : List (Action × World Bool) :=
  [(.message 0 (.hello 0 1 .desktop), ⟨false, 1⟩), (.message 1 (.hello 0 1 .desktop), ⟨false, 1⟩),
    (.message 0 (.connect 1 ":0"), ⟨false, 1⟩), (.message 0 (.startInput 2 0x500 1), ⟨true, 1⟩)]

/-- A second client connects to the display after some actions. -/
def connectAfter (actions : List (Action × World Bool)) : Step :=
  let before := fresh.finish (fresh.play plainServer actions)
  let (answer, out, after) := (before.handle plainServer 1 (.connect 1 ":0") ⟨false, 1⟩).1
  { before, action := .message 1 (.connect 1 ":0"), answer := some answer, out, after }

theorem connectAfter_possible (actions : List (Action × World Bool)) :
    (connectAfter actions).Possible plainServer := ⟨⟨false, 1⟩, rfl⟩

/-- The second client shares the failed seat, and is told that all is well. -/
theorem connectAfter_brokenPipe :
    Run plainServer fresh (fresh.play plainServer brokenPipe) (connectAfter brokenPipe).before ∧
      (connectAfter brokenPipe).Possible plainServer ∧
      (connectAfter brokenPipe).action = .message 1 (.connect 1 ":0") ∧
      (∃ answer, (connectAfter brokenPipe).answer = some (.response answer) ∧
        answer.status = .ok) ∧
      (connectAfter brokenPipe).after.seatOf 1 = some 0 ∧
      ((connectAfter brokenPipe).after.seats.get? 0).map (·.failed) = some true :=
  ⟨run_play _ _ _, connectAfter_possible _, rfl, ⟨_, rfl, rfl⟩, rfl, rfl⟩

/-- Once the failure was reported, the second client has a seat of its own. -/
theorem connectAfter_failure :
    let actions := brokenPipe ++ [(.failure 0, ⟨false, 1⟩)]
    ∃ id seat, (connectAfter actions).after.seatOf 1 = some id ∧
      (connectAfter actions).after.seats.get? id = some seat ∧ seat.display = ":0" ∧
      (seat.failed = true ↔
        ∃ s ∈ fresh.play plainServer actions ++ [connectAfter actions],
          s.action.ofClient = true ∧ s.Fails id) :=
  Run.connected_failed_iff (run_play _ _ _) (connectAfter_possible _) rfl rfl rfl

end Broker

end InputBridge
