-- SUMMARY: Encoding and decoding of UTF-16 are inverse to each other.
import InputBridge.Text.Utf16

/-!
# UTF-16 there and back

A character is one unit that is no surrogate, or a high surrogate before a low one.
So what was encoded is decoded character by character, and the other way round: a text
is written in one way only. A text without U+0000 has no zero unit.
-/

namespace InputBridge.Text.Utf16

variable {c : Char} {u v : UInt16} {rest units : List UInt16} {s : String}

/-- Scalar values leave the surrogates out. -/
theorem toNat_bounds (c : Char) :
    c.toNat < 0xD800 ∨ 0xDFFF < c.toNat ∧ c.toNat < 0x110000 := c.valid

/-! ## Units -/

theorem isHighSurrogate_iff : isHighSurrogate u = true ↔ 0xD800 ≤ u.toNat ∧ u.toNat ≤ 0xDBFF := by
  simp [isHighSurrogate, UInt16.le_iff_toNat_le]

theorem isLowSurrogate_iff : isLowSurrogate u = true ↔ 0xDC00 ≤ u.toNat ∧ u.toNat ≤ 0xDFFF := by
  simp [isLowSurrogate, UInt16.le_iff_toNat_le]

theorem isHighSurrogate_ofNat {n : Nat} (h : n < 0x10000) :
    isHighSurrogate (UInt16.ofNat n) = decide (0xD800 ≤ n ∧ n ≤ 0xDBFF) := by
  rw [Bool.eq_iff_iff, isHighSurrogate_iff, UInt16.toNat_ofNat_of_lt' h, decide_eq_true_iff]

theorem isLowSurrogate_ofNat {n : Nat} (h : n < 0x10000) :
    isLowSurrogate (UInt16.ofNat n) = decide (0xDC00 ≤ n ∧ n ≤ 0xDFFF) := by
  rw [Bool.eq_iff_iff, isLowSurrogate_iff, UInt16.toNat_ofNat_of_lt' h, decide_eq_true_iff]

/-! ## Characters -/

/-- A unit that is no surrogate stands for its character. -/
theorem decodeChars?_single (h : c.toNat < 0x10000) :
    decodeChars? (UInt16.ofNat c.toNat :: rest) = (decodeChars? rest).map (c :: ·) := by
  have hbounds := toNat_bounds c
  have high : isHighSurrogate (UInt16.ofNat c.toNat) = false := by
    rw [isHighSurrogate_ofNat h]
    exact decide_eq_false (by omega)
  have low : isLowSurrogate (UInt16.ofNat c.toNat) = false := by
    rw [isLowSurrogate_ofNat h]
    exact decide_eq_false (by omega)
  have hc : (UInt16.ofNat c.toNat).toNat = c.toNat := UInt16.toNat_ofNat_of_lt' h
  rw [decodeChars?.eq_def]
  simp only [high, low, Bool.false_eq_true, if_false]
  rw [hc, Char.ofNat_toNat]

/-- A pair of surrogates stands for the character that was split. -/
theorem decodeChars?_pair (h : 0x10000 ≤ c.toNat) :
    decodeChars? (UInt16.ofNat (0xD800 + (c.toNat - 0x10000) / 0x400) ::
        UInt16.ofNat (0xDC00 + (c.toNat - 0x10000) % 0x400) :: rest) =
      (decodeChars? rest).map (c :: ·) := by
  have hbounds := toNat_bounds c
  have hhigh : 0xD800 + (c.toNat - 0x10000) / 0x400 < 0x10000 := by omega
  have hlow : 0xDC00 + (c.toNat - 0x10000) % 0x400 < 0x10000 := by omega
  have high : isHighSurrogate (UInt16.ofNat (0xD800 + (c.toNat - 0x10000) / 0x400)) = true := by
    rw [isHighSurrogate_ofNat hhigh]
    exact decide_eq_true (by omega)
  have low : isLowSurrogate (UInt16.ofNat (0xDC00 + (c.toNat - 0x10000) % 0x400)) = true := by
    rw [isLowSurrogate_ofNat hlow]
    exact decide_eq_true (by omega)
  -- the parts are put together again as they were taken apart
  have whole : 0x10000 + (0xD800 + (c.toNat - 0x10000) / 0x400 - 0xD800) * 0x400 +
      (0xDC00 + (c.toNat - 0x10000) % 0x400 - 0xDC00) = c.toNat := by omega
  rw [decodeChars?.eq_def]
  simp only [high, low, if_true, UInt16.toNat_ofNat_of_lt' hhigh, UInt16.toNat_ofNat_of_lt' hlow]
  rw [whole, Char.ofNat_toNat]

theorem decodeChars?_encodeChar (c : Char) (rest : List UInt16) :
    decodeChars? (encodeChar c ++ rest) = (decodeChars? rest).map (c :: ·) := by
  unfold encodeChar
  split
  · next h => exact decodeChars?_single h
  · next h => exact decodeChars?_pair (Nat.le_of_not_lt h)

/-! ## Texts -/

theorem decode?_encode (s : String) : decode? (encode s) = some s := by
  have chars : ∀ cs : List Char, decodeChars? (cs.flatMap encodeChar) = some cs := by
    intro cs
    -- the decoder takes off exactly the units of the first character
    induction cs with
    | nil => rfl
    | cons c cs ih => rw [List.flatMap_cons, decodeChars?_encodeChar, ih, Option.map_some]
  rw [decode?, encode, chars, Option.map_some, String.ofList_toList]

/-- Only U+0000 has a zero unit. -/
theorem ne_zero_of_mem_encodeChar (hc : c ≠ '\x00') (hu : u ∈ encodeChar c) :
    u ≠ 0 := by
  have hbounds := toNat_bounds c
  have positive : c.toNat ≠ 0 := fun h => hc (by rw [← Char.ofNat_toNat c, h])
  -- none of the numbers leaves the range of a unit
  have nonzero : ∀ n, n ≠ 0 → n < 0x10000 → UInt16.ofNat n ≠ 0 := by
    intro n hn hlt h
    have := congrArg UInt16.toNat h
    rw [UInt16.toNat_ofNat_of_lt' hlt] at this
    exact hn this
  unfold encodeChar at hu
  split at hu
  · next h =>
    obtain rfl := List.mem_singleton.mp hu
    exact nonzero _ positive h
  · next h =>
    rcases List.mem_cons.mp hu with rfl | hu
    · exact nonzero _ (by omega) (by omega)
    · obtain rfl := List.mem_singleton.mp hu
      exact nonzero _ (by omega) (by omega)

theorem ne_zero_of_mem_encode (hs : '\x00' ∉ s.toList) (hu : u ∈ encode s) :
    u ≠ 0 := by
  obtain ⟨c, hc, hu⟩ := List.mem_flatMap.mp hu
  refine ne_zero_of_mem_encodeChar ?_ hu
  rintro rfl
  exact hs hc

/-! ## Units that were decoded -/

/-- The character of a scalar value has this value. -/
theorem toNat_ofNat_of_bounds {n : Nat} (h : n < 0xD800 ∨ 0xDFFF < n ∧ n < 0x110000) :
    (Char.ofNat n).toNat = n := by
  rw [Char.ofNat, dif_pos h]
  rfl

theorem encodeChar_single (high : ¬isHighSurrogate u = true) (low : ¬isLowSurrogate u = true) :
    encodeChar (Char.ofNat u.toNat) = [u] := by
  have hlt : u.toNat < 0x10000 := u.toNat_lt
  rw [isHighSurrogate_iff] at high
  rw [isLowSurrogate_iff] at low
  rw [encodeChar, toNat_ofNat_of_bounds (by omega), if_pos hlt, UInt16.ofNat_toNat]

theorem encodeChar_pair (high : isHighSurrogate u = true) (low : isLowSurrogate v = true) :
    encodeChar (Char.ofNat (0x10000 + (u.toNat - 0xD800) * 0x400 + (v.toNat - 0xDC00))) =
      [u, v] := by
  rw [isHighSurrogate_iff] at high
  rw [isLowSurrogate_iff] at low
  have hhigh : 0xD800 + (0x10000 + (u.toNat - 0xD800) * 0x400 + (v.toNat - 0xDC00) - 0x10000) /
      0x400 = u.toNat := by omega
  have hlow : 0xDC00 + (0x10000 + (u.toNat - 0xD800) * 0x400 + (v.toNat - 0xDC00) - 0x10000) %
      0x400 = v.toNat := by omega
  rw [encodeChar, toNat_ofNat_of_bounds (by omega), if_neg (by omega)]
  dsimp only
  rw [hhigh, hlow, UInt16.ofNat_toNat, UInt16.ofNat_toNat]

theorem flatMap_encodeChar_of_decodeChars? {cs : List Char} (h : decodeChars? units = some cs) :
    cs.flatMap encodeChar = units := by
  fun_induction decodeChars? units generalizing cs with
  | case1 =>
    cases h
    rfl
  | case2 u high v rest low n =>
    -- each character is one unit or a pair, as it was encoded
    rename_i ih
    obtain ⟨cs, hcs, rfl⟩ := Option.map_eq_some_iff.mp h
    rw [List.flatMap_cons, encodeChar_pair high low, ih hcs, List.cons_append,
      List.singleton_append]
  | case3 | case4 | case5 => cases h
  | case6 u rest high low ih =>
    obtain ⟨cs, hcs, rfl⟩ := Option.map_eq_some_iff.mp h
    rw [List.flatMap_cons, encodeChar_single high low, ih hcs, List.singleton_append]

/-- Units that were decoded are those of the text. -/
theorem encode_of_decode? (h : decode? units = some s) : encode s = units := by
  obtain ⟨cs, hcs, rfl⟩ := Option.map_eq_some_iff.mp h
  rw [encode, String.toList_ofList, flatMap_encodeChar_of_decodeChars? hcs]

theorem not_mem_of_encode (h : ∀ u ∈ encode s, u ≠ 0) : '\x00' ∉ s.toList := by
  intro hzero
  exact h 0 (List.mem_flatMap.mpr ⟨'\x00', hzero, List.mem_singleton_self 0⟩) rfl

end InputBridge.Text.Utf16
