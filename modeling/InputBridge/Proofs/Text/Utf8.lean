-- SUMMARY: What was encoded as UTF-8 is decoded again.
import InputBridge.Text.Utf8
import Mathlib.Tactic.IntervalCases

/-!
# UTF-8 there and back

A character is one byte, or a leading byte before one to three that continue it. The
scan takes exactly these bytes for the character, so what was encoded is decoded
character by character.
-/

namespace InputBridge.Text.Utf8

variable {p : Partial} {b : UInt8} {c : Char} {n : Nat} {rest : List UInt8}

/-! ## Steps of the scan -/

/-- A byte that begins a character. -/
theorem scan_lead (hb : 0x80 ≤ b.toNat) (h : Partial.ofLead? b = some p) :
    scan none (b :: rest) = scan (some p) rest := by
  have hfirst : first b = ([], some p) := by
    have : ¬b < 0x80 := by
      rw [UInt8.lt_iff_toNat_lt]
      exact Nat.not_lt.mpr hb
    rw [first, if_neg this, h]
  rw [scan, hfirst]
  rfl

theorem Partial.next_of_within (hlow : p.low ≤ b) (hhigh : b ≤ p.high) :
    p.next b = if p.missing ≤ 1 then ([some (Char.ofNat (p.bits * 64 + (b.toNat - 0x80)))], none)
      else ([], some ⟨p.missing - 1, 0x80, 0xBF, p.bits * 64 + (b.toNat - 0x80)⟩) := by
  rw [Partial.next, if_pos (by simp [hlow, hhigh])]

/-- The byte that continues a character with the low six bits of `n`. -/
def continuation (n : Nat) : UInt8 := UInt8.ofNat (n % 0x40 + 0x80)

theorem toNat_continuation (n : Nat) : (continuation n).toNat = n % 0x40 + 0x80 :=
  UInt8.toNat_ofNat_of_lt' (show n % 0x40 + 0x80 < 256 by omega)

theorem continuation_within (n : Nat) : 0x80 ≤ continuation n ∧ continuation n ≤ 0xBF := by
  have hlt := Nat.mod_lt n (show 0 < 0x40 by decide)
  rw [UInt8.le_iff_toNat_le, UInt8.le_iff_toNat_le, toNat_continuation]
  exact ⟨Nat.le_add_left _ _, by show _ ≤ 0xBF; omega⟩

/-- A byte that continues a character and does not end it. -/
theorem scan_continuation {missing bits : Nat} {low high : UInt8} (hlow : low ≤ continuation n)
    (hhigh : continuation n ≤ high) :
    scan (some ⟨missing + 2, low, high, bits⟩) (continuation n :: rest) =
      scan (some ⟨missing + 1, 0x80, 0xBF, bits * 64 + n % 0x40⟩) rest := by
  rw [scan, Partial.next_of_within hlow hhigh, if_neg (by simp), toNat_continuation,
    Nat.add_sub_cancel]
  rfl

/-- A byte that ends a character. -/
theorem scan_last (bits n : Nat) (rest : List UInt8) :
    scan (some ⟨1, 0x80, 0xBF, bits⟩) (continuation n :: rest) =
      some (Char.ofNat (bits * 64 + n % 0x40)) :: scan none rest := by
  obtain ⟨hlow, hhigh⟩ := continuation_within n
  rw [scan, Partial.next_of_within hlow hhigh, if_pos (Nat.le_refl 1), toNat_continuation,
    Nat.add_sub_cancel]
  rfl

/-! ## Characters of each length -/

theorem scan_one (h : c.toNat < 0x80) :
    scan none (UInt8.ofNat c.toNat :: rest) = some c :: scan none rest := by
  have hc : (UInt8.ofNat c.toNat).toNat = c.toNat :=
    UInt8.toNat_ofNat_of_lt' (show c.toNat < 256 by omega)
  have hlt : UInt8.ofNat c.toNat < 0x80 := by
    rw [UInt8.lt_iff_toNat_lt, hc]
    exact h
  rw [scan, first, if_pos hlt, hc, Char.ofNat_toNat]
  rfl

theorem scan_two (low : 0x80 ≤ c.toNat) (high : c.toNat < 0x800) :
    scan none (UInt8.ofNat (c.toNat / 64 % 0x20 + 0xc0) :: continuation c.toNat :: rest) =
      some c :: scan none rest := by
  have hk : c.toNat / 64 % 0x20 = c.toNat / 64 := Nat.mod_eq_of_lt (by omega)
  have lead : Partial.ofLead? (UInt8.ofNat (c.toNat / 64 + 0xc0)) =
      some ⟨1, 0x80, 0xBF, c.toNat / 64⟩ := by
    have hlow : 2 ≤ c.toNat / 64 := by omega
    have hhigh : c.toNat / 64 < 0x20 := by omega
    generalize c.toNat / 64 = k at hlow hhigh
    interval_cases k <;> rfl
  have hlead : (UInt8.ofNat (c.toNat / 64 + 0xc0)).toNat = c.toNat / 64 + 0xc0 :=
    UInt8.toNat_ofNat_of_lt' (show c.toNat / 64 + 0xc0 < 256 by omega)
  have whole : c.toNat / 64 * 64 + c.toNat % 0x40 = c.toNat := by omega
  rw [hk, scan_lead (by omega) lead, scan_last, whole, Char.ofNat_toNat]

theorem scan_three (low : 0x800 ≤ c.toNat) (high : c.toNat < 0x10000) :
    scan none (UInt8.ofNat (c.toNat / 4096 % 0x10 + 0xe0) :: continuation (c.toNat / 64) ::
      continuation c.toNat :: rest) = some c :: scan none rest := by
  have hk : c.toNat / 4096 % 0x10 = c.toNat / 4096 := Nat.mod_eq_of_lt (by omega)
  -- the lowest leading byte leaves out what two bytes can hold, and 0xED the surrogates
  have lead : Partial.ofLead? (UInt8.ofNat (c.toNat / 4096 + 0xe0)) =
      some ⟨2, if c.toNat / 4096 = 0 then 0xA0 else 0x80,
        if c.toNat / 4096 = 0xD then 0x9F else 0xBF, c.toNat / 4096⟩ := by
    have hhigh : c.toNat / 4096 < 0x10 := by omega
    generalize c.toNat / 4096 = k at hhigh
    interval_cases k <;> rfl
  have hlead : (UInt8.ofNat (c.toNat / 4096 + 0xe0)).toNat = c.toNat / 4096 + 0xe0 :=
    UInt8.toNat_ofNat_of_lt' (show c.toNat / 4096 + 0xe0 < 256 by omega)
  obtain ⟨hlow, hhigh⟩ := continuation_within (c.toNat / 64)
  have hlow' : (if c.toNat / 4096 = 0 then 0xA0 else 0x80) ≤ continuation (c.toNat / 64) := by
    split
    · rw [UInt8.le_iff_toNat_le, toNat_continuation]
      show 0xA0 ≤ _
      omega
    · exact hlow
  have hhigh' : continuation (c.toNat / 64) ≤ if c.toNat / 4096 = 0xD then 0x9F else 0xBF := by
    split
    · have hvalid : c.toNat < 0xD800 ∨ 0xDFFF < c.toNat ∧ c.toNat < 0x110000 := c.valid
      rw [UInt8.le_iff_toNat_le, toNat_continuation]
      show _ ≤ 0x9F
      omega
    · exact hhigh
  have whole : (c.toNat / 4096 * 64 + c.toNat / 64 % 0x40) * 64 + c.toNat % 0x40 = c.toNat := by
    omega
  rw [hk, scan_lead (by omega) lead, scan_continuation hlow' hhigh', scan_last, whole,
    Char.ofNat_toNat]

theorem scan_four (low : 0x10000 ≤ c.toNat) :
    scan none (UInt8.ofNat (c.toNat / 262144 % 0x08 + 0xf0) :: continuation (c.toNat / 4096) ::
      continuation (c.toNat / 64) :: continuation c.toNat :: rest) = some c :: scan none rest := by
  have hvalid : c.toNat < 0xD800 ∨ 0xDFFF < c.toNat ∧ c.toNat < 0x110000 := c.valid
  have hk : c.toNat / 262144 % 0x08 = c.toNat / 262144 := Nat.mod_eq_of_lt (by omega)
  -- the lowest leading byte leaves out what three bytes can hold, and 0xF4 what is beyond U+10FFFF
  have lead : Partial.ofLead? (UInt8.ofNat (c.toNat / 262144 + 0xf0)) =
      some ⟨3, if c.toNat / 262144 = 0 then 0x90 else 0x80,
        if c.toNat / 262144 = 4 then 0x8F else 0xBF, c.toNat / 262144⟩ := by
    have hhigh : c.toNat / 262144 < 5 := by omega
    generalize c.toNat / 262144 = k at hhigh
    interval_cases k <;> rfl
  have hlead : (UInt8.ofNat (c.toNat / 262144 + 0xf0)).toNat = c.toNat / 262144 + 0xf0 :=
    UInt8.toNat_ofNat_of_lt' (show c.toNat / 262144 + 0xf0 < 256 by omega)
  obtain ⟨hlow, hhigh⟩ := continuation_within (c.toNat / 4096)
  have hlow' : (if c.toNat / 262144 = 0 then 0x90 else 0x80) ≤ continuation (c.toNat / 4096) := by
    split
    · rw [UInt8.le_iff_toNat_le, toNat_continuation]
      show 0x90 ≤ _
      omega
    · exact hlow
  have hhigh' : continuation (c.toNat / 4096) ≤ if c.toNat / 262144 = 4 then 0x8F else 0xBF := by
    split
    · rw [UInt8.le_iff_toNat_le, toNat_continuation]
      show _ ≤ 0x8F
      omega
    · exact hhigh
  obtain ⟨hlow₂, hhigh₂⟩ := continuation_within (c.toNat / 64)
  have whole : ((c.toNat / 262144 * 64 + c.toNat / 4096 % 0x40) * 64 + c.toNat / 64 % 0x40) * 64 +
      c.toNat % 0x40 = c.toNat := by omega
  rw [hk, scan_lead (by omega) lead, scan_continuation hlow' hhigh',
    scan_continuation hlow₂ hhigh₂, scan_last, whole, Char.ofNat_toNat]

/-! ## Texts -/

theorem scan_utf8EncodeChar (c : Char) (rest : List UInt8) :
    scan none (String.utf8EncodeChar c ++ rest) = some c :: scan none rest := by
  unfold String.utf8EncodeChar
  dsimp only
  split
  · next h => exact scan_one (Nat.lt_succ_of_le h)
  split
  · next h1 h2 => exact scan_two (Nat.lt_of_not_le h1) (Nat.lt_succ_of_le h2)
  split
  · next h1 h2 h3 => exact scan_three (Nat.lt_of_not_le h2) (Nat.lt_succ_of_le h3)
  · next h1 h2 h3 => exact scan_four (Nat.lt_of_not_le h3)

/-- The scan takes off the bytes of one character after the other. -/
theorem scan_encode (s : String) : scan none (encode s) = s.toList.map some := by
  rw [encode_eq_flatMap]
  induction s.toList with
  | nil => rfl
  | cons c cs ih => rw [List.flatMap_cons, scan_utf8EncodeChar, ih, List.map_cons]

theorem decode?_encode (s : String) : decode? (encode s) = some s := by
  have faultless : ∀ cs : List Char, (cs.map some).mapM id = some cs := by
    intro cs
    induction cs with
    | nil => rfl
    | cons c cs ih => simp [ih]
  rw [decode?, scan_encode, faultless, Option.map_some, String.ofList_toList]

theorem decodeLenient_encode (s : String) : decodeLenient (encode s) = s := by
  rw [decodeLenient, scan_encode, List.map_map]
  have same : (fun c : Option Char => c.getD '\uFFFD') ∘ some = id := rfl
  rw [same, List.map_id, String.ofList_toList]

/-! ## Zero bytes -/

/-- Only the character U+0000 has a zero byte. -/
theorem ne_zero_of_mem_utf8EncodeChar (hc : c ≠ '\x00') :
    ∀ b ∈ String.utf8EncodeChar c, b ≠ 0 := by
  have nonzero {n : Nat} (hpos : 0 < n) (hlt : n < 256) : UInt8.ofNat n ≠ 0 := by
    intro heq
    have hzero := congrArg UInt8.toNat heq
    rw [UInt8.toNat_ofNat_of_lt' hlt] at hzero
    exact hpos.ne' hzero
  have hpos : 0 < c.val.toNat := by
    refine Nat.pos_of_ne_zero fun hzero => hc ?_
    exact Char.ext (UInt32.toNat_inj.mp hzero)
  have high (n : Nat) : UInt8.ofNat (n % 64 + 128) ≠ 0 := nonzero (by omega) (by omega)
  unfold String.utf8EncodeChar
  dsimp only
  split
  · simpa using nonzero hpos (by omega)
  split
  -- a leading byte has its high bit set, and so have those that follow
  · have lead := nonzero (n := c.val.toNat / 64 % 32 + 192) (by omega) (by omega)
    simp only [List.forall_mem_cons]
    exact ⟨lead, high _, List.forall_mem_nil _⟩
  split
  · have lead := nonzero (n := c.val.toNat / 4096 % 16 + 224) (by omega) (by omega)
    simp only [List.forall_mem_cons]
    exact ⟨lead, high _, high _, List.forall_mem_nil _⟩
  · have lead := nonzero (n := c.val.toNat / 262144 % 8 + 240) (by omega) (by omega)
    simp only [List.forall_mem_cons]
    exact ⟨lead, high _, high _, high _, List.forall_mem_nil _⟩

theorem zero_not_mem_encode {s : String} (h : '\x00' ∉ s.toList) : 0 ∉ encode s := by
  rw [encode_eq_flatMap]
  intro hzero
  obtain ⟨c, hc, hb⟩ := List.mem_flatMap.mp hzero
  exact ne_zero_of_mem_utf8EncodeChar (ne_of_mem_of_not_mem hc h) 0 hb rfl

end InputBridge.Text.Utf8
