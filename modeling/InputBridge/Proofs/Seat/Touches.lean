-- SUMMARY: Touch contacts are placed at their share of the screen, in order and without overflow.
import InputBridge.Seat.Pointing
import Mathlib.Data.Rat.Floor

/-!
# Places of touch contacts

A touch contact is delivered at its place between the edges of the virtual screen: 0 at the near
edge and before it, 65535 at the far edge and beyond it, and in between the share of the way,
rounded down. Contacts stay in order, and none that is short of the far edge is placed there.
Whatever the edges are, 64-bit words hold every number on the way to the place.
-/

namespace InputBridge

/-! ## Words of 64 bits -/

/-- A number as a word of 64 bits, if it fits into one. -/
def int64? (n : Int) : Option Int64 :=
  if -9223372036854775808 ≤ n ∧ n ≤ 9223372036854775807 then some (Int64.ofInt n) else none

theorem int64?_eq_some {n : Int} (hlow : -9223372036854775808 ≤ n)
    (hhigh : n ≤ 9223372036854775807) : ∃ word, int64? n = some word ∧ word.toInt = n :=
  ⟨Int64.ofInt n, if_pos ⟨hlow, hhigh⟩, Int64.toInt_ofInt_of_le hlow (by omega)⟩

theorem Rect.width_bounds (r : Rect) : -4294967295 ≤ r.width ∧ r.width ≤ 4294967295 := by
  have hleft := r.left.le_toInt
  have hleft' := r.left.toInt_lt
  have hright := r.right.le_toInt
  have hright' := r.right.toInt_lt
  unfold Rect.width
  omega

theorem Rect.height_bounds (r : Rect) : -4294967295 ≤ r.height ∧ r.height ≤ 4294967295 :=
  width_bounds ⟨r.top, r.left, r.bottom, r.right⟩

namespace Seat

variable {pos pos' origin : Int32} {extent : Int}

/-- The place of `pos`, computed with words of 64 bits. There is none if a number on the way does
not fit. -/
def normalize64? (pos origin : Int32) (extent : Int64) : Option Int32 :=
  if extent ≤ 0 then some 0
  else do
    let offset ← int64? (pos.toInt64.toInt - origin.toInt64.toInt)
    let scaled ← int64? (offset.toInt * 65535)
    let share ← int64? (scaled.toInt.tdiv extent.toInt)
    return if share < 0 then 0 else if 65535 < share then 65535 else share.toInt32

theorem clamp64_eq (share : Int64) :
    (if share < 0 then 0 else if 65535 < share then 65535 else share.toInt32) =
      Int32.ofInt (max 0 (min 65535 share.toInt)) := by
  simp only [Int64.lt_iff_toInt_lt]
  show (if share.toInt < 0 then 0 else if 65535 < share.toInt then 65535 else share.toInt32) = _
  split
  · next h =>
    rw [show max 0 (min 65535 share.toInt) = 0 by omega]
    rfl
  split
  · next h =>
    rw [show max 0 (min 65535 share.toInt) = 65535 by omega]
    rfl
  · rw [show max 0 (min 65535 share.toInt) = share.toInt by omega, ← Int64.toInt32_ofInt,
      Int64.ofInt_toInt]

/-- Positions along `extent` from `origin` are placed as they should be. -/
structure Places (origin : Int32) (extent : Int) : Prop where
  /-- Neither the extent nor a number on the way to a place is too large for 64 bits. -/
  computed : ∀ pos, (int64? extent).bind (normalize64? pos origin) =
    some (normalize pos origin extent)
  degenerate : extent ≤ 0 → ∀ pos, normalize pos origin extent = 0
  within : ∀ pos, 0 ≤ normalize pos origin extent ∧ normalize pos origin extent ≤ 65535
  ordered : ∀ pos pos', pos ≤ pos' → normalize pos origin extent ≤ normalize pos' origin extent
  near : ∀ pos, pos ≤ origin → normalize pos origin extent = 0
  share : 0 < extent → ∀ pos, origin ≤ pos → pos.toInt ≤ origin.toInt + extent →
    (normalize pos origin extent).toInt =
      ⌊((pos.toInt - origin.toInt : Int) * 65535 / (extent : Int) : ℚ)⌋
  far : 0 < extent → ∀ pos,
    normalize pos origin extent = 65535 ↔ origin.toInt + extent ≤ pos.toInt

/-! ## The place as a number -/

theorem normalize_of_nonpos (h : extent ≤ 0) (pos origin : Int32) :
    normalize pos origin extent = 0 := if_pos h

/-- Before the origin it makes no difference to which side the share is rounded. -/
theorem toInt_normalize (h : 0 < extent) (pos origin : Int32) :
    (normalize pos origin extent).toInt =
      max 0 (min 65535 ((pos.toInt - origin.toInt) * 65535 / extent)) := by
  have hclamped : ∀ n : Int, (Int32.ofInt (max 0 (min 65535 n))).toInt = max 0 (min 65535 n) :=
    fun n => Int32.toInt_ofInt_of_le (by omega) (by omega)
  rw [normalize, if_neg (by omega), hclamped]
  by_cases hoffset : 0 ≤ pos.toInt - origin.toInt
  · rw [Int.tdiv_eq_ediv_of_nonneg (by omega)]
  · have htruncated : 0 ≤ (-((pos.toInt - origin.toInt) * 65535)).tdiv extent :=
      Int.tdiv_nonneg (by omega) h.le
    rw [Int.neg_tdiv] at htruncated
    -- before the origin the two ways to round differ, but both give at most 0
    have hfloor : (pos.toInt - origin.toInt) * 65535 / extent < 0 :=
      Int.ediv_neg_of_neg_of_pos (by omega) h
    omega

theorem normalize_bounds (pos origin : Int32) (extent : Int) :
    0 ≤ (normalize pos origin extent).toInt ∧ (normalize pos origin extent).toInt ≤ 65535 := by
  by_cases h : 0 < extent
  · rw [toInt_normalize h]
    omega
  · rw [normalize_of_nonpos (by omega)]
    decide

theorem normalize64?_eq (pos origin : Int32) (extent : Int64) :
    normalize64? pos origin extent = some (normalize pos origin extent.toInt) := by
  have hpos := pos.le_toInt
  have hpos' := pos.toInt_lt
  have horigin := origin.le_toInt
  have horigin' := origin.toInt_lt
  by_cases h : extent ≤ 0
  -- a screen without extent needs no computing
  · rw [normalize64?, if_pos h, normalize_of_nonpos (Int64.le_iff_toInt_le.mp h)]
  have hpositive : ¬extent.toInt ≤ 0 := fun hle => h (Int64.le_iff_toInt_le.mpr hle)
  obtain ⟨offset, hoffset, heq⟩ := int64?_eq_some (n := pos.toInt - origin.toInt)
    (by omega) (by omega)
  obtain ⟨scaled, hscaled, heq'⟩ := int64?_eq_some (n := (pos.toInt - origin.toInt) * 65535)
    (by omega) (by omega)
  -- dividing by the extent brings the number nearer to 0
  have hquotient := Int.natAbs_tdiv_le_natAbs ((pos.toInt - origin.toInt) * 65535) extent.toInt
  obtain ⟨share, hshare, heq''⟩ := int64?_eq_some
    (n := ((pos.toInt - origin.toInt) * 65535).tdiv extent.toInt) (by omega) (by omega)
  simp only [normalize64?, if_neg h, Int32.toInt_toInt64, hoffset, heq, hscaled, heq', hshare,
    Option.bind_eq_bind, Option.bind_some]
  rw [normalize, if_neg hpositive, ← heq'', ← clamp64_eq]
  rfl

/-! ## Shares -/

theorem floor_share (n : Int) (h : 0 < extent) : ⌊((n : Int) * 65535 / (extent : Int) : ℚ)⌋ =
    n * 65535 / extent := by
  have hcast : ((n : Int) * 65535 / (extent : Int) : ℚ) =
      ((n * 65535 : Int) : ℚ) / (extent : Int) := by
    push_cast
    rfl
  rw [hcast, Int.floor_div_cast_of_nonneg h.le, Int.floor_intCast]

/-- Only what reaches the far edge has the whole of the extent as its share. -/
theorem whole_le_share_iff {n : Int} (h : 0 < extent) :
    65535 ≤ n * 65535 / extent ↔ extent ≤ n := by
  rw [Int.le_ediv_iff_mul_le h, Int.mul_comm]
  omega

theorem places (hlow : -9223372036854775808 ≤ extent) (hhigh : extent ≤ 9223372036854775807) :
    Places origin extent where
  computed pos := by
    obtain ⟨word, hword, rfl⟩ := int64?_eq_some hlow hhigh
    rw [hword, Option.bind_some, normalize64?_eq]
  degenerate h pos := normalize_of_nonpos h pos origin
  within pos := by
    simp only [Int32.le_iff_toInt_le]
    exact normalize_bounds pos origin extent
  ordered pos pos' hle := by
    rw [Int32.le_iff_toInt_le] at hle ⊢
    by_cases h : 0 < extent
    · -- rounding down keeps the order, and so do the bounds
      rw [toInt_normalize h, toInt_normalize h]
      have hshare : (pos.toInt - origin.toInt) * 65535 / extent ≤
          (pos'.toInt - origin.toInt) * 65535 / extent := Int.ediv_le_ediv h (by omega)
      omega
    · rw [normalize_of_nonpos (by omega), normalize_of_nonpos (by omega)]
  near pos hle := by
    rw [Int32.le_iff_toInt_le] at hle
    -- before the origin the share is negative, and the bound makes it 0
    by_cases h : 0 < extent
    · have hshare : (pos.toInt - origin.toInt) * 65535 / extent ≤ 0 :=
        Int.ediv_nonpos_of_nonpos_of_neg (by omega) h
      rw [← Int32.toInt_inj, toInt_normalize h]
      show max 0 _ = 0
      omega
    · exact normalize_of_nonpos (by omega) pos origin
  share h pos hle hle' := by
    rw [Int32.le_iff_toInt_le] at hle
    have hnonneg : 0 ≤ (pos.toInt - origin.toInt) * 65535 / extent :=
      Int.ediv_nonneg (by omega) h.le
    have hwhole := @whole_le_share_iff extent (pos.toInt - origin.toInt) h
    have hshare : (pos.toInt - origin.toInt) * 65535 / extent ≤ 65535 := by
      apply Int.ediv_le_of_le_mul h
      omega
    rw [toInt_normalize h, floor_share _ h]
    omega
  far h pos := by
    have hwhole := @whole_le_share_iff extent (pos.toInt - origin.toInt) h
    rw [← Int32.toInt_inj, toInt_normalize h]
    show max 0 _ = 65535 ↔ _
    omega

/-- Touches are placed as they should be along both sides of any rectangle, whether or not its edges
are crossed. -/
theorem touches_placed (screen : Rect) (origin : Int32) :
    Places origin screen.width ∧ Places origin screen.height := by
  obtain ⟨hwidth, hwidth'⟩ := screen.width_bounds
  obtain ⟨hheight, hheight'⟩ := screen.height_bounds
  exact ⟨places (by omega) (by omega), places (by omega) (by omega)⟩

/-- A screen from one end of the positions to the other. -/
def widestScreen : Rect := ⟨-2147483648, 0, 2147483647, 1⟩

/-- Its last pixel is not at the far edge, and the edge itself is. -/
theorem widestScreen_placed :
    0 < widestScreen.width ∧
      (normalize 2147483646 (-2147483648) widestScreen.width).toInt = 65534 ∧
      normalize 2147483646 (-2147483648) widestScreen.width ≠ 65535 ∧
      normalize 2147483647 (-2147483648) widestScreen.width = 65535 := by
  have hextent : 0 < widestScreen.width := by decide
  obtain ⟨placed, -⟩ := touches_placed widestScreen (-2147483648)
  refine ⟨hextent, by decide, fun hlast => ?_, (placed.far hextent 2147483647).mpr (by decide)⟩
  exact absurd ((placed.far hextent 2147483646).mp hlast) (by decide)

end Seat

end InputBridge
