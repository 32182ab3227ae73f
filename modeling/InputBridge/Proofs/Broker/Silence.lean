-- SUMMARY: Nothing is asked any more on the link of a seat that has failed.
import InputBridge.Proofs.Broker.Calls
import InputBridge.Proofs.Seat.Events

/-!
# Seats that have failed

A seat fails by a notice of its display or by a flush that is refused. Not every operation on a
seat looks at that: barriers and warps leave it to the request, and a client that goes away or
stops a window is let do so. All the same nothing is ever asked again on the link of a seat that
has failed, and no event of it is told to anybody.
-/

namespace InputBridge

namespace Broker

variable {σ : Type} {S : DisplayServer σ} {start b b' : Broker} {id : SeatId} {seat : Seat}
  {steps : List Step} {s : Step} {l l' : List Call} {config : BrokerConfig}

/-! ## Failing for good -/

theorem Run.seats_later (run : Run S start steps b) : start.seats.Later b.seats :=
  run.invariant (I := fun b => start.seats.Later b.seats) (.refl _)
    fun _ h possible => h.trans possible.later

/-- Nothing is told of an event if no seat that works has it. -/
theorem Step.Possible.out_of_lost {event : Event} (possible : s.Possible S)
    (haction : s.action = .event id event) (lost : s.before.seats.Lost id) : s.out = [] := by
  rcases dispatch_yields (possible.of_event haction) with
    ⟨-, hout, -⟩ | ⟨seat, seat', deliveries, hseat, hdispatch, hout, -⟩
  · exact hout
  · rcases Seat.dispatch_yields hdispatch with ⟨-, -, rfl⟩ | ⟨hlive, -⟩
    · exact hout
    · rw [lost.2 seat hseat] at hlive
      cases hlive

theorem Run.out_of_lost {event : Event} (run : Run S start steps b)
    (lost : start.seats.Lost id) (hs : s ∈ steps) (haction : s.action = .event id event) :
    s.out = [] := by
  obtain ⟨earlier, later, rfl⟩ := List.append_of_mem hs
  obtain ⟨run₁, possible, -⟩ := run.split
  exact possible.out_of_lost haction (lost.later run₁.seats_later)

/-! ## Links -/

theorem RecordedRun.numbered (run : RecordedRun S { config } [] steps b l) :
    b.seats.Numbered l := run.talks.numbered .empty

/-- A seat that has failed stays failed as long as it is there. From then on, whatever comes,
nothing is asked on its link, and its events are told to nobody. A notice of its failure makes a
seat fail, and so does a flush that is refused, after which nothing is asked on the link in the
same step either. -/
theorem RecordedRun.failed_silent {earlier later : List Step}
    (run : RecordedRun S { config } [] earlier b l)
    (further : RecordedRun S b l later b' l') :
    (∀ id seat, b.seats.get? id = some seat → seat.failed = true →
      (∀ seat', b'.seats.get? id = some seat' →
        seat'.failed = true ∧ seat'.link = seat.link) ∧
      (∃ calls, l' = l ++ calls ∧ Silent seat.link.id calls) ∧
      ∀ s ∈ later, ∀ event, s.action = .event id event → s.out = []) ∧
    (∀ s ∈ later, ∀ id seat, s.action = .failure id → s.after.seats.get? id = some seat →
      seat.failed = true) ∧
    ∀ before link e after, l' = before ++ .asked link .flush (.error e) :: after →
      Silent link after ∧ ∀ id seat, b'.seats.get? id = some seat → seat.link.id = link →
        seat.failed = true := by
  refine ⟨fun id seat hseat hfailed => ?_, fun s hs id seat haction hseat => ?_,
    fun before link e after heq => ?_⟩
  · have hid : id < b.seats.nextId := run.reachable.balanced.seats.lt_nextId hseat
    have lost : b.seats.Lost id := by
      refine ⟨hid, fun seat' hseat' => ?_⟩
      obtain rfl : seat = seat' := Option.some.inj (hseat.symm.trans hseat')
      exact hfailed
    refine ⟨fun seat' hseat' => ?_, ?_, fun s hs event => further.run.out_of_lost lost hs⟩
    -- a seat under an id that was given out before is the same one, later
    · obtain ⟨old, hold, continues⟩ := further.run.seats_later.seats id seat' hid hseat'
      obtain rfl : seat = old := Option.some.inj (hseat.symm.trans hold)
      exact ⟨continues.failed hfailed, continues.link⟩
    · -- no other seat has the link, so it is over
      exact (further.talks.over (run.numbered.over hseat hfailed)).2
  · obtain ⟨before, after, rfl⟩ := List.append_of_mem hs
    obtain ⟨-, possible, -⟩ := further.run.split
    rw [(possible.of_failure haction).2] at hseat
    -- closing or clearing its display is no change of the seat itself
    have hmarked : (s.before.seats.markFailed id).get? id = some seat := hseat
    rw [SharedSeats.get?_markFailed, if_pos rfl] at hmarked
    obtain ⟨old, -, rfl⟩ := Option.map_eq_some_iff.mp hmarked
    rfl
  · obtain ⟨calls, rfl, heeded, hover⟩ :=
      (run.talks.trans further.talks).heeded .empty
    refine ⟨heeded before link e after heq, fun id seat => ?_⟩
    -- the link was refused a flush at some time, and then the seat that has it is failed
    refine (hover link e ?_).failed id seat
    rw [heq]
    exact List.mem_append_right _ List.mem_cons_self

/-- What comes after a flush was refused: requests for the seat that has failed by that, a second
client that shares it, an event and a notice of its failure, a new seat for the second client,
and the departure of the first. -/
def afterBrokenPipe : List (Action × World Bool) :=
  let actions : List Action := [.message 0 (.stopInput 3 0x500), .message 0 (.setCursorPos 4 10 10),
    .message 1 (.connect 1 ":0"), .event 0 (.keyboardState 0 2), .failure 0,
    .message 1 (.connect 2 ":0"), .departure 0]
  actions.map fun action => (action, ⟨false, 1⟩)

/-- The new seat is set up, and the link of the old one is closed. -/
theorem brokenPipe_failed_silent :
    let played := fresh.playRecorded plainServer [] brokenPipe
    let b := fresh.finish played.1
    let further := b.playRecorded plainServer played.2 afterBrokenPipe
    ∃ seat, b.seats.get? 0 = some seat ∧ seat.failed = true ∧
      ∃ calls, further.2 = played.2 ++ calls ∧ calls.length = 10 ∧ Silent seat.link.id calls ∧
        ∀ s ∈ further.1, ∀ event, s.action = .event 0 event → s.out = [] := by
  intro played b further
  have run : RecordedRun plainServer fresh [] played.1 b played.2 := recordedRun_play ..
  have goesOn : RecordedRun plainServer b played.2 further.1 (b.finish further.1) further.2 :=
    recordedRun_play ..
  obtain ⟨hseat, hlength⟩ : (b.seats.get? 0).map (·.failed) = some true ∧
      (further.2.drop played.2.length).length = 10 := by decide +kernel
  obtain ⟨seat, hseat, hfailed⟩ := Option.map_eq_some_iff.mp hseat
  obtain ⟨-, ⟨calls, hcalls, silent⟩, hout⟩ :=
    (RecordedRun.failed_silent run goesOn).1 0 seat hseat hfailed
  rw [hcalls, List.drop_left] at hlength
  exact ⟨seat, hseat, hfailed, calls, hcalls, hlength, silent, hout⟩

end Broker

end InputBridge
