-- SUMMARY: Requests with a type and an id are answered, whatever else is in them.
import InputBridge.Proofs.Daemon.Sessions
import InputBridge.Proofs.Wire.Compatibility

/-!
# Requests that can be answered

After the hello a client may send what no version of the protocol knows. As long as the session can
make out a type and an id, it has an answer for the client, and the next request is read.
-/

namespace InputBridge

open Wire Wire.Value

/-! ## The answer to an unknown type -/

theorem Wire.Value.length_encodeNat_le (n : Nat) : (encodeNat n).length ≤ 9 := by
  unfold encodeNat
  repeat' split
  all_goals simp

/-- The answer fits a frame, whatever the id is. -/
theorem Response.length_encode_unknownType (id : UInt32) :
    (Message.response (.failure id "unknown_type")).encode.length ≤ Frame.maxPayload := by
  let before := mapHead 4 ++ encodeEntries [(.text "type", .text "response")] ++ encode (.text "id")
  let after :=
    encodeEntries [(.text "status", .text "error"), (.text "error", .text "unknown_type")]
  have hencode : (Message.response (.failure id "unknown_type")).encode =
      before ++ encodeNat id.toNat ++ after := by
    simp [before, after, Message.encode, Message.toValue, Message.typeName, Message.fields,
      Response.fields, failure, Status.name, field, optionalField, ofUInt32, ofNat, encode,
      encodeEntries]
  have hbefore : before.length = 18 := by decide
  have hafter : after.length = 32 := by decide
  have hid := length_encodeNat_le id.toNat
  rw [hencode, List.length_append, List.length_append, Frame.maxPayload]
  omega

namespace Daemon

namespace Session

open InputBridge.Frame (maxPayload ofPayload Reader)

variable {s : Session} {m answer : Message} {entries : List (Value × Value)} {type : String}
  {id : UInt32} {payload : List UInt8}

/-- What fits a frame is written to a client that still reads. -/
theorem write_of_le (hgone : s.gone = false) (h : m.encode.length ≤ maxPayload) (phase : Phase) :
    s.write m phase = { s with phase, written := s.written ++ [m] } := by
  have hframe : Frame.ofMessage m = .ok (ofPayload m.encode) := by
    rw [Frame.ofMessage, Frame.put_of_le h]
    rfl
  simp [write, hgone, hframe]

theorem writeAnswer_waiting (hphase : s.phase = .waiting) (hgone : s.gone = false)
    (hanswer : s.answer = some answer) (h : answer.encode.length ≤ maxPayload) :
    s.writeAnswer =
      { s with answer := none, phase := .ready, written := s.written ++ [answer] } := by
  simp only [writeAnswer, hanswer, hphase]
  exact write_of_le (s := { s with answer := none }) hgone h .ready

/-- What the session makes of a request with the id, and hands to the broker. -/
inductive Serves (s : Session) (id : UInt32) : Session × Option Message → Prop where
  /-- It asks the broker. What it is told meanwhile it keeps for later, and when there is an answer
  it writes the answer and goes on. -/
  | asks {m : Message} (hid : m.id = id)
      (answers : ∀ answer pushes, answer.encode.length ≤ maxPayload →
        { s with phase := .waiting, answer := some answer, pushes }.writeAnswer =
          { s with
            phase := .ready, answer := none, pushes, written := s.written ++ [answer] }) :
      Serves s id ({ s with phase := .waiting }, some m)
  /-- It goes on when it has written that it does not know the type. -/
  | refuses :
      Serves s id
        ({ s with written := s.written ++ [.response (.failure id "unknown_type")] }, none)

theorem read_of_next {reader : Reader} (hphase : s.phase = .ready)
    (hnext : s.reader.next = (.ok (some payload), reader)) :
    s.read = { s with reader }.take payload := by
  simp [read, isReading, hphase, hnext]

theorem take_of_message (hphase : s.phase = .ready) (h : Payload.decode payload = .message m) :
    s.take payload = ({ s with phase := .waiting }, some m) := by
  simp [take, hphase, h]

theorem take_of_unknown (hphase : s.phase = .ready) (hgone : s.gone = false)
    (h : Payload.decode payload = .unknown ⟨type, id⟩) : s.take payload =
      ({ s with written := s.written ++ [.response (.failure id "unknown_type")] }, none) := by
  simp [take, hphase, h, write_of_le hgone (Response.length_encode_unknownType id)]

/-- A payload that is a map with a type and an id is not malformed, whatever else is in it: what it
is read as has the id, and the session answers. If the type is none of those that there are, the
answer is that it is unknown. -/
theorem serves_of_identified (identified : Identified entries type id)
    (spelled : Spells maxDepth (.map entries) payload) :
    ((∃ m, Payload.decode payload = .message m ∧ m.id = id) ∨
      Payload.decode payload = .unknown ⟨type, id⟩) ∧
    ∀ (s : Session) (reader : Reader), s.phase = .ready → s.gone = false →
      s.reader.next = (.ok (some payload), reader) →
      Serves { s with reader } id s.read ∧
      (type ∉ Message.typeNames → s.read =
        ({ s with reader, written := s.written ++ [.response (.failure id "unknown_type")] },
          none)) := by
  have decoded := Payload.decode_of_identified identified spelled
  refine ⟨decoded.imp_left fun ⟨m, hm, hid, _⟩ => ⟨m, hm, hid⟩, ?_⟩
  intro s reader hphase hgone hnext
  rw [read_of_next hphase hnext]
  -- a type that there is not can only be that of an envelope
  rcases decoded with ⟨m, hm, hid, htype⟩ | hunknown
  · rw [take_of_message (s := { s with reader }) hphase hm]
    refine ⟨.asks hid fun answer pushes h => ?_, fun hnone => absurd htype hnone⟩
    exact writeAnswer_waiting rfl hgone rfl h
  · rw [take_of_unknown (s := { s with reader }) hphase hgone hunknown]
    exact ⟨.refuses, fun _ => rfl⟩

/-- A request of a type that there is not, with its type at the end. -/
def resize : List (Value × Value) :=
  [(.text "width", .ofNat 640), (.text "id", .ofNat 7), (.text "type", .text "resize")]

theorem serves_resize :
    { phase := .ready, reader := ⟨none, ofPayload (Value.map resize).encode⟩ : Session }.read =
      ({ phase := .ready, written := [.response (.failure 7 "unknown_type")] }, none) := by
  have identified : Identified resize "resize" 7 :=
    { isString := by simp [resize, IsString]
      distinct := by simp [resize]
      type := by simp [resize]
      id := ⟨.ofNat 7, by simp [resize], .unsigned _ 7⟩ }
  have canonical : Canonical maxDepth (.map resize) := by
    refine .map (by simp [resize, Canonical.text]) ?_
    simp only [resize, List.forall_mem_cons]
    exact ⟨.unsigned (by decide), .unsigned (by decide), .text _, List.forall_mem_nil _⟩
  have served := serves_of_identified identified (spells_encode canonical (by decide))
  exact (served.2 _ {} rfl rfl (by decide)).2 (by decide)

end Session

end Daemon

end InputBridge
