-- SUMMARY: No spelling of a value begins another, so a part of a payload is no message.
import InputBridge.Proofs.Wire.Frame

/-!
# Payloads that were cut short

A reader takes what it reads from the front and never asks what is behind it. So no spelling of
a value begins another one, and a payload that was cut short holds no value at all, wherever the
cut is: it is no message, and no envelope either, even if type and id are still there.
-/

namespace InputBridge

namespace Wire.Value

variable {α β : Type} {reader : Reader α} {depth : Nat} {v : Value} {payload part : List UInt8}

/-! ## Stable readers -/

/-- More bytes behind those that a reader has taken change nothing, and are left. -/
def Stable (reader : Reader α) : Prop :=
  ∀ input x rest, reader input = some (x, rest) →
    ∀ more, reader (input ++ more) = some (x, rest ++ more)

theorem stable_some (x : α) : Stable fun input => some (x, input) := by
  rintro input _ _ ⟨⟩ more
  rfl

theorem stable_none : Stable fun _ => (none : Option (α × List UInt8)) := nofun

/-- What is read on from where a stable reader has stopped. -/
theorem Stable.bind {next : α → Reader β} (h : Stable reader) (hnext : ∀ x, Stable (next x)) :
    Stable fun input => (reader input).bind fun r => next r.1 r.2 := by
  intro input y rest hread more
  obtain ⟨⟨x, mid⟩, hx, hy⟩ := Option.bind_eq_some_iff.mp hread
  dsimp only
  rw [h input x mid hx more, Option.bind_some]
  exact hnext x mid y rest hy more

theorem Stable.map (h : Stable reader) (f : α → β) :
    Stable fun input => (reader input).map fun r => (f r.1, r.2) := by
  intro input y rest hread more
  obtain ⟨⟨x, rest⟩, hx, ⟨⟩⟩ := Option.map_eq_some_iff.mp hread
  dsimp only
  rw [h input x _ hx more, Option.map_some]

/-! ## Bytes, numbers and rows -/

theorem stable_readBytes (count : Nat) : Stable (readBytes count) := by
  intro input part rest h more
  rw [readBytes_eq] at h ⊢
  split at h
  · next hcount =>
    cases h
    rw [if_pos (by rw [List.length_append]; omega), List.take_append_of_le_length hcount,
      List.drop_append_of_le_length hcount]
  · cases h

theorem stable_readNumber (width : Nat) : Stable (readNumber width) :=
  (stable_readBytes width).map ofBigEndian

theorem Stable.many (h : Stable reader) (count : Nat) : Stable (readMany reader count) := by
  induction count with
  | zero => exact stable_some []
  | succ count ih => exact h.bind fun x => ih.bind fun xs => stable_some (x :: xs)

theorem Stable.pair (h : Stable reader) : Stable (readPair reader) :=
  h.bind fun k => h.bind fun v => stable_some (k, v)

theorem stable_readExtension (length : Nat) : Stable (readExtension length) :=
  (stable_readNumber 1).bind fun type => (stable_readBytes length).bind fun data =>
    stable_some (Value.extension type data)

/-! ## Values -/

theorem Stable.of_cons (hnil : reader [] = none)
    (h : ∀ b, Stable fun input => reader (b :: input)) : Stable reader := by
  intro input x rest hread more
  cases input with
  | nil =>
    rw [hnil] at hread
    cases hread
  | cons b input => exact h b input x rest hread more

theorem stable_readScalar (lead : Lead) : Stable (read.readScalar lead) := by
  cases lead with
  | done v => exact stable_some v
  | unsigned width => exact (stable_readNumber width).map _
  | signed width => exact (stable_readNumber width).map fun n => Value.signed (toSigned width n)
  | float32 => exact (stable_readNumber 4).map _
  | float64 => exact (stable_readNumber 8).map _
  | text length => exact (stable_readBytes length).map _
  | textOf width =>
    exact (stable_readNumber width).bind fun length => (stable_readBytes length).bind fun b =>
      stable_some (ofTextBytes b)
  | bytesOf width =>
    exact (stable_readNumber width).bind fun length => (stable_readBytes length).bind fun b =>
      stable_some (Value.bytes b)
  | array | arrayOf | map | mapOf | extension | extensionOf | reserved => exact stable_none

/-- What follows a leading byte is read by a stable reader, if nested values are. -/
theorem stable_readAfter (h : Stable (read depth)) (b : UInt8) :
    Stable fun input => read (depth + 1) (b :: input) := by
  simp only [read]
  cases leadOf b with
  | array length => exact (h.many length).map _
  | arrayOf width => exact (stable_readNumber width).bind fun length => (h.many length).map _
  | map length => exact (h.pair.many length).map _
  | mapOf width => exact (stable_readNumber width).bind fun length => (h.pair.many length).map _
  | extension length => exact stable_readExtension length
  | extensionOf width => exact (stable_readNumber width).bind stable_readExtension
  | done | unsigned | signed | float32 | float64 | text | textOf | bytesOf | reserved =>
    exact stable_readScalar _

theorem stable_read (depth : Nat) : Stable (read depth) := by
  induction depth with
  | zero => exact .of_cons rfl fun b => stable_readScalar (leadOf b)
  | succ depth ih => exact .of_cons rfl (stable_readAfter ih)

/-- No spelling of a value begins another spelling. -/
theorem Spells.decode?_of_prefix (h : Spells maxDepth v payload) (hpart : part <+: payload)
    (hne : part ≠ payload) : Value.decode? part = none := by
  obtain ⟨more, rfl⟩ := hpart
  cases hread : Value.read maxDepth part with
  | none => rw [Value.decode?, hread, Option.map_none]
  | some r =>
    obtain ⟨v', rest⟩ := r
    -- the whole would be left with the bytes that were cut off, but nothing is left of it
    have whole := h.read []
    rw [List.append_nil, stable_read maxDepth part v' rest hread more] at whole
    obtain ⟨-, hrest⟩ := Prod.mk.inj (Option.some.inj whole)
    obtain ⟨-, rfl⟩ := List.append_eq_nil_iff.mp hrest
    exact absurd (List.append_nil part).symm hne

end Wire.Value

open Wire Wire.Value

/-- A payload that was cut short is neither a message nor an envelope. -/
theorem Payload.decode_of_prefix {v : Value} {payload part : List UInt8}
    (h : Spells maxDepth v payload) (hpart : part <+: payload) (hne : part ≠ payload) :
    Payload.decode part = .malformed := by
  rw [Payload.decode, h.decode?_of_prefix hpart hne]

theorem Message.spells_encode (m : Message) (h : m.encode.length < 2 ^ 32) :
    Spells maxDepth m.toValue m.encode :=
  Value.spells_encode ((@inverse_message (maxDepth - 3)).canonical m) h

namespace Frame

variable {m : Message} {out out' : List UInt8}

/-- The payload of the frame that is added for a message is read as the message, and whatever is
in front of a cut of it is read as nothing at all. -/
theorem malformed_of_put (h : (put m).run out = (.ok (), out')) :
    out' = out ++ ofPayload m.encode ∧ Payload.decode m.encode = .message m ∧
      ∀ part, part <+: m.encode → part ≠ m.encode → Payload.decode part = .malformed := by
  have hle : m.encode.length ≤ maxPayload := le_of_put_ok (congrArg Prod.fst h)
  have hlt : m.encode.length < 2 ^ 32 := lt_of_le_maxPayload hle
  refine ⟨?_, Payload.decode_encode m hlt, fun part => ?_⟩
  · rw [put_of_le hle] at h
    exact (congrArg Prod.snd h).symm
  · exact Payload.decode_of_prefix (m.spells_encode hlt)

/-- The first 22 bytes are the type and the id. They lack the rectangle that the head of the map
announces; under a head of two entries they would be a message. -/
theorem malformed_of_put_clipCursor :
    let m : Message := .clipCursor 3 (some ⟨0, 0, 640, 480⟩)
    (put m).run [] = (.ok (), ofPayload m.encode) ∧
      Payload.decode (0x82 :: (m.encode.take 22).tail) = .message (.clipCursor 3 none) ∧
      Payload.decode (m.encode.take 22) = .malformed := by
  intro m
  have added : (put m).run [] = (.ok (), ofPayload m.encode) := rfl
  obtain ⟨-, -, cut⟩ := malformed_of_put added
  exact ⟨added, by decide +kernel, cut _ (List.take_prefix 22 _) (by decide +kernel)⟩

end Frame

end InputBridge
