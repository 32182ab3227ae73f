-- SUMMARY: Rounding a quotient to a float first does not show in the integer that it is rounded to.
import InputBridge.Binary64
import Mathlib.Tactic.Linarith
import Mathlib.Tactic.Ring

/-!
# Rounding to floats and to integers

A quotient is rounded twice, to a float and then to an integer. If the denominator is odd, no
quotient lies halfway between two integers. All of them keep a distance from there that is larger
than the error of the float, so that the first rounding does not show in the result.
-/

namespace InputBridge

namespace Binary64

/-! ## The error of a float -/

theorem roundHalfEven_error (num : Nat) {den : Nat} (hden : 0 < den) :
    2 * num ≤ 2 * (roundHalfEven num den * den) + den ∧
      2 * (roundHalfEven num den * den) ≤ 2 * num + den := by
  have hnum := Nat.div_add_mod num den
  have hrem := Nat.mod_lt num hden
  rw [Nat.mul_comm] at hnum
  simp only [roundHalfEven]
  split
  · omega
  · split
    · -- a tie goes to whichever neighbour is even
      rcases Nat.mod_two_eq_zero_or_one (num / den) with heven | hodd
      · rw [heven, Nat.add_zero]
        omega
      · rw [hodd, Nat.add_mul]
        omega
    · rw [Nat.add_mul]
      omega

theorem scaled_neg {num den k : Nat} : scaled num den (-(k : Int)) = (num * 2 ^ k, den) := by
  unfold scaled
  split
  · simp [Nat.shiftLeft_eq]
  · next hnonneg =>
    obtain rfl : k = 0 := by omega
    simp

/-- The float of a quotient has a unit that is smaller than one part of the denominator. -/
theorem roundQuotient_eq {num : Nat} (den : Nat) (hnum : 0 < num) (hlt : num < 2 ^ 52) :
    ∃ k : Nat, den < 2 ^ k ∧
      roundQuotient num den = (roundHalfEven (num * 2 ^ k) den, -(k : Int)) := by
  -- the unit is chosen so that the quotient has 53 binary digits
  have hlog : num.log2 < 52 := (Nat.log2_lt hnum.ne').mpr hlt
  have hden : den < 2 ^ (den.log2 + 1) := Nat.lt_log2_self
  have hunit : ∀ e : Int, e ≤ num.log2 - den.log2 - 52 →
      ∃ k : Nat, den < 2 ^ k ∧ e = -(k : Int) := by
    intro e he
    refine ⟨e.natAbs, hden.trans_le (Nat.pow_le_pow_right (by decide) ?_), ?_⟩ <;> omega
  simp only [roundQuotient]
  split
  · obtain ⟨k, hk, he⟩ := hunit (num.log2 - den.log2 - 53) (by omega)
    exact ⟨k, hk, by simp only [he, scaled_neg]⟩
  · obtain ⟨k, hk, he⟩ := hunit (num.log2 - den.log2 - 53 + 1) (by omega)
    exact ⟨k, hk, by simp only [he, scaled_neg]⟩

/-! ## The nearest integer -/

/-- Half of an odd number is no multiple of it, so a fraction with an odd denominator does not lie
in the middle between two integers. -/
theorem remainder_pos (num : Nat) {den : Nat} (hodd : den % 2 = 1) :
    0 < (2 * num + den) % (2 * den) := by
  have hparity := Nat.mod_mul_right_mod (2 * num + den) 2 den
  omega

/-- An error of at most half a unit does not take such a fraction past the middle. -/
theorem nearest_of_error {num den m unit : Nat} (hodd : den % 2 = 1) (hunit : den < unit)
    (hlow : 2 * (num * unit) ≤ 2 * (m * den) + den)
    (hhigh : 2 * (m * den) ≤ 2 * (num * unit) + den) :
    (2 * m + unit) / (2 * unit) = (2 * num + den) / (2 * den) := by
  -- an odd denominator has no middle among its parts
  have hden : 0 < den := by omega
  have hpos := remainder_pos num hodd
  have hmod := Nat.mod_lt (2 * num + den) (show 0 < 2 * den by omega)
  have hrem := Nat.div_add_mod (2 * num + den) (2 * den)
  generalize (2 * num + den) / (2 * den) = c at hrem ⊢
  generalize (2 * num + den) % (2 * den) = r at hrem hpos hmod
  -- the distance to either middle, in parts of the denominator and of the unit
  have hbelow : unit ≤ r * unit := Nat.le_mul_of_pos_left unit hpos
  have habove : (r + 1) * unit ≤ 2 * den * unit := Nat.mul_le_mul_right unit hmod
  have hscaled : (2 * den * c + r) * unit = (2 * num + den) * unit := by rw [hrem]
  apply Nat.div_eq_of_lt_le
  · apply Nat.le_of_mul_le_mul_left _ hden
    linarith
  · apply Nat.lt_of_mul_lt_mul_left (a := den)
    linarith

/-- Away from the middle, rounding is the same on both sides of zero. -/
theorem nearest_neg {num den : Nat} (hodd : den % 2 = 1) :
    -(((2 * num + den) / (2 * den) : Nat) : Int) = (2 * -(num : Int) + den) / (2 * den) := by
  have hpos := remainder_pos num hodd
  have hmod := Nat.mod_lt (2 * num + den) (show 0 < 2 * den by omega)
  have hrem := Nat.div_add_mod (2 * num + den) (2 * den)
  generalize (2 * num + den) / (2 * den) = c at hrem ⊢
  generalize (2 * num + den) % (2 * den) = r at hrem hpos hmod
  have hsplit : 2 * -(num : Int) + den = (2 * den - r) + 2 * den * -(c : Int) := by
    zify at hrem
    linarith
  rw [hsplit, Int.add_mul_ediv_left _ _ (by omega), Int.ediv_eq_zero_of_lt (by omega) (by omega),
    Int.zero_add]

theorem round_of_pos {negative : Bool} {m k : Nat} (hk : 0 < k) :
    (⟨negative, m, -(k : Int)⟩ : Binary64).round =
      if negative then -(((2 * m + 2 ^ k) / (2 * 2 ^ k) : Nat) : Int)
      else ((2 * m + 2 ^ k) / (2 * 2 ^ k) : Nat) := by
  have hneg : -(k : Int) < 0 := by omega
  simp only [round, if_pos hneg, Int.natAbs_neg, Int.natAbs_natCast, Nat.shiftLeft_eq, Nat.one_mul]

/-- The float of a quotient with an odd denominator rounds to the integer that is nearest to the
quotient itself. -/
theorem round_ofQuotient {num : Int} {den : Nat} (hodd : den % 2 = 1) (hlt : num.natAbs < 2 ^ 52) :
    (ofQuotient num den).round = (2 * num + den) / (2 * den) := by
  -- zero has no unit
  by_cases hzero : num = 0
  · subst hzero
    have hhalf : (den : Int) / (2 * den) = 0 := Int.ediv_eq_zero_of_lt (by omega) (by omega)
    simp [ofQuotient, round, zero, hhalf]
  obtain ⟨k, hk, hquotient⟩ := roundQuotient_eq den (Int.natAbs_pos.mpr hzero) hlt
  obtain ⟨hlow, hhigh⟩ := roundHalfEven_error (num.natAbs * 2 ^ k) (show 0 < den by omega)
  have hpos : 0 < k := by
    apply Nat.pos_of_ne_zero
    rintro rfl
    rw [Nat.pow_zero] at hk
    omega
  simp only [ofQuotient, if_neg hzero, hquotient, round_of_pos hpos,
    nearest_of_error hodd hk hlow hhigh]
  by_cases hnegative : num < 0
  · rw [if_pos (by simpa using hnegative), nearest_neg hodd]
    congr
    omega
  · have habs : (num.natAbs : Int) = num := by omega
    rw [if_neg (by simpa using hnegative), ← habs]
    simp

end Binary64

end InputBridge
