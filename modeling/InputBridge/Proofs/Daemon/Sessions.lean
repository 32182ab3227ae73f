-- SUMMARY: What reading and writing do to a session, phase by phase.
import InputBridge.Daemon.Session
import InputBridge.Proofs.Wire.Frame

/-!
# What a session does

A session reads while nothing of its client is with the broker, writes an answer while
something is, and writes what it has unasked while it waits for a request. Each time it
writes one message, or it ends.
-/

namespace InputBridge

namespace Daemon

namespace Session

open InputBridge.Frame (maxPayload ofPayload Reader)

variable {s : Session} {payload : List UInt8} {reader : Reader}

/-! ## Reading -/

/-- The payload that the session takes when it reads. -/
def nextPayload? (s : Session) : Option (List UInt8) :=
  if s.isReading then
    match s.reader.next with
    | (.ok payload, _) => payload
    | (.error _, _) => none
  else none

/-- The reader goes on to `reader` when the payload is taken. -/
def Takes (s : Session) (payload : List UInt8) (reader : Reader) : Prop :=
  s.reader.Sound → payload.length ≤ maxPayload ∧ reader.Sound ∧
    s.reader.unread = ofPayload payload ++ reader.unread

/-- What can come of reading: the payload that is taken, the session afterwards, and the
message that is handed to the broker. -/
inductive Reads (s : Session) : Option (List UInt8) → Session → Option Message → Prop where
  /-- There is no complete frame, or it is not the time to read. -/
  | idle {reader : Reader} (h : s.reader.Sound → reader.Sound ∧ reader.unread = s.reader.unread) :
      Reads s none { s with reader } none
  /-- There is none and there will not be one. -/
  | close {reader : Reader} (hreading : s.isReading = true) :
      Reads s none { s with reader }.finish none
  | hello {payload : List UInt8} {reader : Reader} {id version : UInt32} {role : Role}
      (hphase : s.phase = .greeting) (htakes : s.Takes payload reader)
      (hdecode : Payload.decode payload = .message (.hello id version role)) :
      Reads s (some payload) { s with reader, phase := .greeted } (some (.hello id version role))
  | request {payload : List UInt8} {reader : Reader} {m : Message} (hphase : s.phase = .ready)
      (htakes : s.Takes payload reader) (hdecode : Payload.decode payload = .message m) :
      Reads s (some payload) { s with reader, phase := .waiting } (some m)
  | unknown {payload : List UInt8} {reader : Reader} {e : Envelope} (hphase : s.phase = .ready)
      (htakes : s.Takes payload reader) (hdecode : Payload.decode payload = .unknown e) :
      Reads s (some payload)
        ({ s with reader }.write (.response (.failure e.id "unknown_type")) .ready) none
  /-- What is taken is no hello where there has to be one, or nothing at all. -/
  | refuse {payload : List UInt8} {reader : Reader} (hreading : s.isReading = true)
      (htakes : s.Takes payload reader)
      (hdecode : (s.phase = .greeting ∧
          ∀ id version role, Payload.decode payload ≠ .message (.hello id version role)) ∨
        Payload.decode payload = .malformed) :
      Reads s (some payload) { s with reader }.finish none

theorem reads_take (hreading : s.isReading = true) (htakes : s.Takes payload reader) :
    Reads s (some payload) ({ s with reader }.take payload).1
      ({ s with reader }.take payload).2 := by
  unfold take
  dsimp only
  -- what was decoded, with the phase, decides; all that has no branch of its own is refused
  split
  · next hphase hdecode => exact .hello hphase htakes hdecode
  · next hphase hdecode => exact .request hphase htakes hdecode
  · next e hphase hdecode => exact .unknown (e := e) hphase htakes hdecode
  · next hhello hrequest hunknown =>
    refine .refuse hreading htakes ?_
    have hphase : s.phase = .greeting ∨ s.phase = .ready := by simpa [isReading] using hreading
    refine hphase.imp (fun hgreeting => ⟨hgreeting, ?_⟩) fun hready => ?_
    · intro id version role hdecode
      exact hhello _ _ _ hgreeting hdecode
    cases hdecode : Payload.decode payload with
    | message m => exact (hrequest m hready hdecode).elim
    | unknown e => exact (hunknown e hready hdecode).elim
    | malformed => rfl

theorem reads (s : Session) : s.Reads s.nextPayload? s.read.1 s.read.2 := by
  by_cases hreading : s.isReading = true
  -- the stream is at an end, or a frame is not there yet, or it is there
  · rcases hnext : s.reader.next with ⟨e | none | payload, reader⟩
    · have hread : s.read = ({ s with reader }.finish, none) := by simp [read, hreading, hnext]
      have hpayload : s.nextPayload? = none := by simp [nextPayload?, hreading, hnext]
      rw [hread, hpayload]
      exact .close hreading
    · have hpayload : s.nextPayload? = none := by simp [nextPayload?, hreading, hnext]
      rw [hpayload]
      -- an unfinished frame is waited for, unless the other side has hung up
      by_cases hgone : s.hungUp = true
      · have hread : s.read = ({ s with reader }.finish, none) := by
          simp [read, hreading, hnext, hgone]
        rw [hread]
        exact .close hreading
      · have hread : s.read = ({ s with reader }, none) := by simp [read, hreading, hnext, hgone]
        rw [hread]
        exact .idle fun hr => by simpa [hnext] using Reader.next_cases hr
    · have hread : s.read = { s with reader }.take payload := by simp [read, hreading, hnext]
      have hpayload : s.nextPayload? = some payload := by simp [nextPayload?, hreading, hnext]
      rw [hread, hpayload]
      exact reads_take hreading fun hr => by simpa [hnext] using Reader.next_cases hr
  -- a session that waits for its answer reads nothing
  · have hread : s.read = (s, none) := by simp [read, hreading]
    have hpayload : s.nextPayload? = none := by simp [nextPayload?, hreading]
    rw [hread, hpayload]
    exact .idle fun hr => ⟨hr, rfl⟩

/-! ## Writing -/

theorem write_cases (s : Session) (m : Message) (phase : Phase) :
    s.write m phase = s.finish ∨ s.write m phase = { s with phase, written := s.written ++ [m] } :=
  ite_eq_or_eq ..

/-- The phase after an answer. -/
def afterAnswer (s : Session) (a : Message) : Phase :=
  if s.phase = .greeted then afterHello a else .ready

theorem writeAnswer_cases (s : Session) : s.writeAnswer = s ∨
    ∃ a, s.answer = some a ∧ s.isAsking = true ∧
      (s.writeAnswer = { s with answer := none }.finish ∨
        s.writeAnswer = { s with
          answer := none, phase := s.afterAnswer a, written := s.written ++ [a] }) := by
  unfold writeAnswer
  cases hanswer : s.answer with
  | none => exact .inl rfl
  | some a =>
    cases hphase : s.phase with
    | greeting | ready | ended => exact .inl rfl
    -- the answer to a hello is the one after which the session may be over
    | greeted =>
      refine .inr ⟨a, rfl, by simp [isAsking, hphase], ?_⟩
      rw [afterAnswer, if_pos hphase]
      exact write_cases { s with answer := none } a (afterHello a)
    | waiting =>
      refine .inr ⟨a, rfl, by simp [isAsking, hphase], ?_⟩
      rw [afterAnswer, if_neg (by rw [hphase]; decide)]
      exact write_cases { s with answer := none } a .ready

theorem writePush_cases (s : Session) : s.writePush = s ∨
    ∃ m pushes, s.phase = .ready ∧ s.pushes = m :: pushes ∧
      (s.writePush = { s with pushes }.finish ∨
        s.writePush = { s with pushes, phase := .ready, written := s.written ++ [m] }) := by
  unfold writePush
  split
  · next m pushes hphase hpushes =>
    exact .inr ⟨m, pushes, hphase, hpushes, write_cases { s with pushes } m .ready⟩
  · exact .inl rfl

/-! ## Being told -/

/-- Leaves messages for the client, unless the session has ended. -/
def tell (s : Session) (messages : List Message) : Session :=
  if s.phase = .ended then s else { s with pushes := s.pushes ++ messages }

@[simp] theorem tell_nil (s : Session) : s.tell [] = s := by
  unfold tell
  split
  · rfl
  · rw [List.append_nil]

theorem tell_tell (s : Session) (messages more : List Message) :
    (s.tell messages).tell more = s.tell (messages ++ more) := by
  by_cases h : s.phase = .ended <;> simp [tell, h]

end Session

end Daemon

end InputBridge
