-- SUMMARY: All that waits for a flush is flushed within the step that asked for it.
import InputBridge.Proofs.Broker.Calls

/-!
# Flushes

What is asked for windows and the pointer waits with the display server until a flush. The
operations on a seat only mark it, and it is up to whoever lets the seat do something to see to
the flush: after a request, after an event, and after the windows of a client that goes away
have been stopped. Each of them does so before its step is over.
-/

namespace InputBridge

namespace Broker

variable {σ : Type} {S : DisplayServer σ} {b : Broker} {steps : List Step} {l l' : List Call}
  {config : BrokerConfig}

/-- Between two steps no seat that works has anything that waits for a flush. -/
theorem RecordedRun.settled (run : RecordedRun S { config } [] steps b l) : b.seats.Settled :=
  run.talks.settled fun _ _ h => by cases h

/-- Whatever display servers grant in a step and keep until a flush is followed by a flush on
its link in that step, and when the step is over no seat that works is marked. -/
theorem RecordedRun.queued_flushed {s : Step} (run : RecordedRun S { config } [] steps s.before l)
    (step : s.Calls S l l') : ∃ calls, l' = l ++ calls ∧ Flushed calls ∧
      ∀ id seat, s.after.seats.get? id = some seat → seat.failed = false →
        seat.flushPending = false := by
  obtain ⟨calls, rfl, flushed⟩ := step.talks.flushed
  exact ⟨calls, rfl, flushed, (run.snoc step).settled⟩

/-- A display server that grants no barrier at the right. -/
def openRightServer : DisplayServer Bool where
  openLink := plainServer.openLink
  answer
    | link, .createBarrier barrier, refuses =>
      if barrier.allow = .negativeX then (.error (.request "BadAlloc"), refuses)
      else plainServer.answer link (.createBarrier barrier) refuses
    | link, r, refuses => plainServer.answer link r refuses
  closeLink := plainServer.closeLink

/-- Of a rectangle whose third barrier is refused the first two are created and deleted again,
and all of that is flushed. -/
theorem halfClip_queued_flushed :
    let played := fresh.playRecorded openRightServer []
      [(.message 0 (.hello 0 1 .desktop), ⟨false, 1⟩), (.message 0 (.connect 1 ":0"), ⟨false, 1⟩)]
    let b := fresh.finish played.1
    ∃ s calls, b.recordedStepOf? openRightServer
        (.message 0 (.clipCursor 2 (some ⟨0, 0, 100, 100⟩))) ⟨false, 1⟩ played.2 =
          some (s, played.2 ++ calls) ∧
      s.answer = some (.response (.failure 2 "request_failed")) ∧ Flushed calls ∧
      calls.map Call.waits = [true, true, false, true, true, false] ∧
      ∃ seat, s.after.seats.get? 0 = some seat ∧ seat.failed = false ∧
        seat.flushPending = false := by
  intro played b
  have run : RecordedRun openRightServer fresh [] played.1 b played.2 := recordedRun_play ..
  obtain ⟨⟨s, l'⟩, hstep, hanswer, hwaits, hseat⟩ : ∃ taken ∈ b.recordedStepOf? openRightServer
      (.message 0 (.clipCursor 2 (some ⟨0, 0, 100, 100⟩))) ⟨false, 1⟩ played.2,
      taken.1.answer = some (.response (.failure 2 "request_failed")) ∧
      (taken.2.drop played.2.length).map Call.waits = [true, true, false, true, true, false] ∧
      (taken.1.after.seats.get? 0).map (·.failed) = some false := by decide +kernel
  -- the theorem asks for the run and for the step, and gives the flush
  obtain ⟨seat, hseat, hlive⟩ := Option.map_eq_some_iff.mp hseat
  obtain ⟨hbefore, -, step⟩ := of_recordedStepOf? hstep
  rw [← hbefore] at run
  obtain ⟨calls, rfl, flushed, settled⟩ := RecordedRun.queued_flushed run step
  rw [List.drop_left] at hwaits
  exact ⟨s, calls, hstep, hanswer, flushed, hwaits, seat, hseat, hlive,
    settled 0 seat hseat hlive⟩

end Broker

end InputBridge
