-- SUMMARY: Encoding of UTF-8, and strict and lenient decoding.

/-!
# UTF-8

Bytes to characters and back. A single scan over the bytes yields the
characters and the faults among them, where a fault is one maximal run of bytes
that starts a character and does not finish it. Strict decoding wants no fault;
lenient decoding writes U+FFFD for each.
-/

namespace InputBridge.Text.Utf8

/-- The UTF-8 bytes of a text. -/
def encode (s : String) : List UInt8 := s.toUTF8.data.toList

/-- The bytes of a text are those of its characters, one after the other. -/
theorem encode_eq_flatMap (s : String) : encode s = s.toList.flatMap String.utf8EncodeChar := by
  have bytes : s.toList.utf8Encode = s.toUTF8 := String.utf8Encode_toList
  rw [encode, ← bytes, List.utf8Encode]
  simp

/-! ## The scan -/

/-- What is still missing of a character whose first bytes have been read: how
many continuation bytes, the range of the next one, and the bits so far. -/
structure Partial where
  missing : Nat
  low : UInt8
  high : UInt8
  bits : Nat

/-- The state after a byte that may begin a character of several bytes. -/
def Partial.ofLead? (b : UInt8) : Option Partial :=
  if 0xC2 ≤ b && b ≤ 0xDF then some ⟨1, 0x80, 0xBF, b.toNat - 0xC0⟩
  else if b == 0xE0 then some ⟨2, 0xA0, 0xBF, 0⟩
  else if b == 0xED then some ⟨2, 0x80, 0x9F, 0xD⟩
  else if 0xE1 ≤ b && b ≤ 0xEF then some ⟨2, 0x80, 0xBF, b.toNat - 0xE0⟩
  else if b == 0xF0 then some ⟨3, 0x90, 0xBF, 0⟩
  else if 0xF1 ≤ b && b ≤ 0xF3 then some ⟨3, 0x80, 0xBF, b.toNat - 0xF0⟩
  else if b == 0xF4 then some ⟨3, 0x80, 0x8F, 4⟩
  else none

/-- The result of a byte read between characters: what it yields, and the
character it begins. -/
def first (b : UInt8) : List (Option Char) × Option Partial :=
  if b < 0x80 then ([some (Char.ofNat b.toNat)], none)
  else match Partial.ofLead? b with
    | some p => ([], some p)
    | none => ([none], none)

/-- The result of a byte read inside a character. A byte that cannot continue it
ends it as a fault and is then read afresh. -/
def Partial.next (p : Partial) (b : UInt8) : List (Option Char) × Option Partial :=
  if p.low ≤ b && b ≤ p.high then
    let bits := p.bits * 64 + (b.toNat - 0x80)
    if p.missing ≤ 1 then ([some (Char.ofNat bits)], none)
    else ([], some ⟨p.missing - 1, 0x80, 0xBF, bits⟩)
  else
    let (out, state) := first b
    (none :: out, state)

/-- The characters of the bytes in order, `none` for each fault. -/
def scan : Option Partial → List UInt8 → List (Option Char)
  | none, [] => []
  | some _, [] => [none]
  | none, b :: rest => let (out, state) := first b; out ++ scan state rest
  | some p, b :: rest => let (out, state) := p.next b; out ++ scan state rest

/-! ## Decoding -/

/-- The text of well-formed UTF-8. -/
def decode? (bytes : List UInt8) : Option String :=
  ((scan none bytes).mapM id).map String.ofList

/-- The text of any bytes, U+FFFD for each fault. -/
def decodeLenient (bytes : List UInt8) : String :=
  String.ofList ((scan none bytes).map (·.getD '\uFFFD'))

end InputBridge.Text.Utf8
