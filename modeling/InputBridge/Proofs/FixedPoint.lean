-- SUMMARY: Which ranges are rescaled onto which exactly, and bounds of rounded positions.
import InputBridge.FixedPoint
import InputBridge.Proofs.Binary64
import Mathlib.Algebra.Order.Field.Rat
import Mathlib.Tactic.Linarith
import Mathlib.Tactic.NormNum
import Mathlib.Tactic.Ring

/-!
# Rescaling and rounding

A value is rescaled by its distance from the low end of the device's range and by the width of
that range. Both are differences of 64-bit numbers and wrap around, while the product and the
quotient are exact. So a range whose width is below 2^31 is mapped onto the range that is asked
for, monotonically and with its ends to the ends. A wider range is not, but for a few target ranges
at which the wrapped values happen to be clamped or rounded to what they should be.

A position is rounded to the nearest pixel, although it goes through a float.
-/

namespace InputBridge

theorem toInt_clampInt32 (n : Int) :
    (clampInt32 n).toInt = max (-2147483648) (min 2147483647 n) := by
  unfold clampInt32
  apply Int32.toInt_ofInt_of_le <;> omega

namespace Fixed32

variable {v w low high : Fixed32} {outLow outHigh : Int32}

/-! ## The number that is meant -/

def toRat (v : Fixed32) : ℚ := v.integral.toInt + v.frac.toNat / 2 ^ 32

theorem toInt_toRaw (v : Fixed32) :
    v.toRaw.toInt = v.integral.toInt * 4294967296 + v.frac.toNat := by
  have hlow := v.integral.le_toInt
  have hhigh := v.integral.toInt_lt
  have hfrac := v.frac.toNat_lt
  unfold toRaw
  apply Int64.toInt_ofInt_of_le <;> omega

@[simp] theorem toRaw_ofRaw (n : Int64) : (ofRaw n).toRaw = n := by
  have hlow := n.le_toInt
  have hhigh := n.toInt_lt
  have hintegral : (Int32.ofInt (n.toInt / 4294967296)).toInt = n.toInt / 4294967296 := by
    apply Int32.toInt_ofInt_of_le <;> omega
  have hfrac : ((UInt32.ofInt (n.toInt % 4294967296)).toNat : Int) = n.toInt % 4294967296 := by
    simp [UInt32.ofInt]
    omega
  apply Int64.toInt_inj.mp
  rw [toInt_toRaw]
  simp only [ofRaw, hintegral, hfrac]
  omega

theorem toRat_eq (v : Fixed32) : v.toRat = v.toRaw.toInt / 2 ^ 32 := by
  rw [toInt_toRaw, toRat]
  push_cast
  ring

theorem toRat_le_iff : v.toRat ≤ w.toRat ↔ v.toRaw.toInt ≤ w.toRaw.toInt := by
  rw [toRat_eq, toRat_eq, div_le_div_iff_of_pos_right (by positivity)]
  exact Int.cast_le

theorem toRat_lt_iff : v.toRat < w.toRat ↔ v.toRaw.toInt < w.toRaw.toInt := by
  rw [toRat_eq, toRat_eq, div_lt_div_iff_of_pos_right (by positivity)]
  exact Int.cast_lt

/-! ## Distances -/

/-- How far the second number lies above the first, in units of 2^-32. -/
def distance (v w : Fixed32) : Int := w.toRaw.toInt - v.toRaw.toInt

theorem toInt_toRaw_sub (v w : Fixed32) :
    (w.sub v).toRaw.toInt = (distance v w).bmod (2 ^ 64) := by
  simp [sub, distance, Int64.toInt_sub]

theorem distance_lt (v w : Fixed32) : distance v w < 2 ^ 64 := by
  have hlow := v.toRaw.le_toInt
  have hhigh := w.toRaw.toInt_lt
  unfold distance
  omega

theorem toRat_sub_toRat (v w : Fixed32) : w.toRat - v.toRat = distance v w / 2 ^ 32 := by
  rw [toRat_eq, toRat_eq, distance]
  push_cast
  ring

/-- Every place in a range is the place of some number. -/
theorem exists_distance_eq {d : Int} (hd : 0 ≤ d) (hle : d ≤ distance low high) :
    ∃ v, distance low v = d := by
  have hlow := low.toRaw.le_toInt
  have hhigh := high.toRaw.toInt_lt
  unfold distance at hle
  refine ⟨ofRaw (Int64.ofInt (low.toRaw.toInt + d)), ?_⟩
  rw [distance, toRaw_ofRaw, Int64.toInt_ofInt_of_le (by omega) (by omega)]
  omega

/-- Half of all distances are as they are when they wrap around. -/
theorem bmod_of_lt {d : Int} (hd : 0 ≤ d) (hlt : d < 2 ^ 63) : d.bmod (2 ^ 64) = d := by
  apply Int.bmod_eq_of_le <;> omega

/-- The other half becomes negative. -/
theorem bmod_of_le {d : Int} (hle : 2 ^ 63 ≤ d) (hlt : d < 2 ^ 64) :
    d.bmod (2 ^ 64) = -(2 ^ 64 - d) := by
  simp only [Int.bmod]
  split <;> omega

/-! ## Rescaled values -/

theorem toInt_rescale (h : (distance low high).bmod (2 ^ 64) ≠ 0) :
    (v.rescale low high outLow outHigh).toInt =
      max (-2147483648) (min 2147483647
        (outLow.toInt + ((distance low v).bmod (2 ^ 64) * (outHigh.toInt - outLow.toInt)).tdiv
          ((distance low high).bmod (2 ^ 64)))) := by
  unfold rescale
  simp only [toInt_toRaw_sub, if_neg h, toInt_clampInt32]

/-- A share of something is between nothing and all of it. -/
theorem share_bounds {part whole span : Int} (hpart : 0 ≤ part) (hle : part ≤ whole)
    (hwhole : 0 < whole) (hspan : 0 ≤ span) :
    0 ≤ part * span / whole ∧ part * span / whole ≤ span := by
  constructor
  · exact Int.ediv_nonneg (Int.mul_nonneg hpart hspan) hwhole.le
  · apply Int.ediv_le_of_le_mul hwhole
    rw [Int.mul_comm span]
    exact Int.mul_le_mul_of_nonneg_right hle hspan

/-- Without wrapping around, the value is the share of the target range rounded down. -/
theorem toInt_rescale_of_lt (hv : 0 ≤ distance low v) (hle : distance low v ≤ distance low high)
    (hpos : 0 < distance low high) (hwidth : distance low high < 2 ^ 63)
    (hout : outLow ≤ outHigh) :
    (v.rescale low high outLow outHigh).toInt =
      outLow.toInt +
        distance low v * (outHigh.toInt - outLow.toInt) / distance low high := by
  have hspan : 0 ≤ outHigh.toInt - outLow.toInt := by
    simpa [Int32.le_iff_toInt_le] using hout
  obtain ⟨hnonneg, hshare⟩ := share_bounds hv hle hpos hspan
  have hlow := outLow.le_toInt
  have hhigh := outHigh.toInt_lt
  have hwrapped := bmod_of_lt hpos.le hwidth
  rw [toInt_rescale (by omega), hwrapped, bmod_of_lt hv (by omega),
    Int.tdiv_eq_ediv_of_nonneg (Int.mul_nonneg hv hspan)]
  omega

/-- If only the width wraps around, the value runs away from the target range. -/
theorem toInt_rescale_of_le_of_lt (hv : 0 ≤ distance low v) (hlt : distance low v < 2 ^ 63)
    (hwide : 2 ^ 63 ≤ distance low high) (hout : outLow ≤ outHigh) :
    (v.rescale low high outLow outHigh).toInt =
      max (-2147483648) (outLow.toInt -
        distance low v * (outHigh.toInt - outLow.toInt) / (2 ^ 64 - distance low high)) := by
  have hspan : 0 ≤ outHigh.toInt - outLow.toInt := by
    simpa [Int32.le_iff_toInt_le] using hout
  have hwidth := distance_lt low high
  have hshare := Int.mul_nonneg hv hspan
  have hnonneg : 0 ≤ distance low v * (outHigh.toInt - outLow.toInt) /
      (2 ^ 64 - distance low high) := Int.ediv_nonneg hshare (by omega)
  have hhigh := outLow.toInt_lt
  have hwrapped := bmod_of_le hwide hwidth
  rw [toInt_rescale (by omega), hwrapped, bmod_of_lt hv hlt, Int.tdiv_neg,
    Int.tdiv_eq_ediv_of_nonneg hshare]
  omega

/-- If the distance wraps around as well, the value comes from beyond the target range. -/
theorem toInt_rescale_of_le (hv : 2 ^ 63 ≤ distance low v)
    (hle : distance low v ≤ distance low high) (hout : outLow ≤ outHigh) :
    (v.rescale low high outLow outHigh).toInt =
      min 2147483647 (outLow.toInt +
        (2 ^ 64 - distance low v) * (outHigh.toInt - outLow.toInt) /
          (2 ^ 64 - distance low high)) := by
  have hspan : 0 ≤ outHigh.toInt - outLow.toInt := by
    simpa [Int32.le_iff_toInt_le] using hout
  have hwidth := distance_lt low high
  have hshare : 0 ≤ (2 ^ 64 - distance low v) * (outHigh.toInt - outLow.toInt) :=
    Int.mul_nonneg (by omega) hspan
  have hnonneg : 0 ≤ (2 ^ 64 - distance low v) * (outHigh.toInt - outLow.toInt) /
      (2 ^ 64 - distance low high) := Int.ediv_nonneg hshare (by omega)
  have hlow := outLow.le_toInt
  have hwrapped := bmod_of_le (hv.trans hle) hwidth
  rw [toInt_rescale (by omega), hwrapped, bmod_of_le hv (by omega), Int.neg_mul,
    Int.neg_tdiv_neg, Int.tdiv_eq_ediv_of_nonneg hshare]
  omega

/-! ## Ranges -/

/-- The range of a device is mapped into the target range, its ends to the ends, and larger values
to no smaller ones. -/
structure MapsOnto (low high : Fixed32) (outLow outHigh : Int32) : Prop where
  within : ∀ v : Fixed32, low.toRat ≤ v.toRat → v.toRat ≤ high.toRat →
    outLow ≤ v.rescale low high outLow outHigh ∧ v.rescale low high outLow outHigh ≤ outHigh
  lowest : low.rescale low high outLow outHigh = outLow
  highest : high.rescale low high outLow outHigh = outHigh
  mono : ∀ v w : Fixed32, low.toRat ≤ v.toRat → v.toRat ≤ w.toRat → w.toRat ≤ high.toRat →
    v.rescale low high outLow outHigh ≤ w.rescale low high outLow outHigh

/-- The values are what a monotone function of the distances makes of them. -/
theorem MapsOnto.of_value (hpos : 0 < distance low high) (value : Int → Int)
    (hvalue : ∀ v, 0 ≤ distance low v → distance low v ≤ distance low high →
      (v.rescale low high outLow outHigh).toInt = value (distance low v))
    (hlow : value 0 = outLow.toInt) (hhigh : value (distance low high) = outHigh.toInt)
    (hmono : ∀ d e, 0 ≤ d → d ≤ e → e ≤ distance low high → value d ≤ value e) :
    MapsOnto low high outLow outHigh := by
  have hself : distance low low = 0 := Int.sub_self _
  have hplace : ∀ {v : Fixed32}, low.toRat ≤ v.toRat → 0 ≤ distance low v := by
    intro v hv
    exact Int.sub_nonneg.mpr (toRat_le_iff.mp hv)
  have horder : ∀ {v w : Fixed32}, v.toRat ≤ w.toRat → distance low v ≤ distance low w := by
    intro v w hvw
    exact Int.sub_le_sub_right (toRat_le_iff.mp hvw) _
  constructor
  case within =>
    intro v hv hle
    -- between the two ends the function stays between its values there
    rw [Int32.le_iff_toInt_le, Int32.le_iff_toInt_le, hvalue v (hplace hv) (horder hle), ← hlow,
      ← hhigh]
    exact ⟨hmono _ _ le_rfl (hplace hv) (horder hle), hmono _ _ (hplace hv) (horder hle) le_rfl⟩
  case lowest =>
    apply Int32.toInt_inj.mp
    rw [hvalue low hself.ge (by omega), hself, hlow]
  case highest =>
    apply Int32.toInt_inj.mp
    rw [hvalue high hpos.le le_rfl, hhigh]
  case mono =>
    intro v w hv hvw hle
    have hw := hv.trans hvw
    rw [Int32.le_iff_toInt_le, hvalue v (hplace hv) (horder (hvw.trans hle)),
      hvalue w (hplace hw) (horder hle)]
    exact hmono _ _ (hplace hv) (horder hvw) (horder hle)

theorem mapsOnto_of_narrow (hpos : 0 < distance low high) (hwidth : distance low high < 2 ^ 63)
    (hout : outLow ≤ outHigh) : MapsOnto low high outLow outHigh := by
  have hspan : 0 ≤ outHigh.toInt - outLow.toInt := by
    simpa [Int32.le_iff_toInt_le] using hout
  refine .of_value hpos
    (fun d => outLow.toInt + d * (outHigh.toInt - outLow.toInt) / distance low high)
    (fun v hv hle => toInt_rescale_of_lt hv hle hpos hwidth hout) ?_ ?_ ?_
  · simp
  · simp [Int.mul_ediv_cancel_left _ hpos.ne']
  · intro d e _ hde _
    have hshare := Int.mul_le_mul_of_nonneg_right hde hspan
    have hquotient := Int.ediv_le_ediv hpos hshare
    omega

/-- The target range has one value only. -/
theorem mapsOnto_of_eq (hpos : 0 < distance low high) (hout : outLow = outHigh) :
    MapsOnto low high outLow outHigh := by
  subst hout
  have hwidth := distance_lt low high
  -- the width may wrap, but not to 0
  have hwrapped : (distance low high).bmod (2 ^ 64) ≠ 0 := by
    rcases lt_or_ge (distance low high) (2 ^ 63) with hlt | hge
    · rw [bmod_of_lt hpos.le hlt]
      exact hpos.ne'
    · rw [bmod_of_le hge hwidth]
      omega
  refine .of_value hpos (fun _ => outLow.toInt) (fun v _ _ => ?_) rfl rfl fun _ _ _ _ _ => le_rfl
  have hlow := outLow.le_toInt
  have hhigh := outLow.toInt_lt
  rw [toInt_rescale hwrapped]
  simp
  omega

/-! ## Ranges that are too wide -/

/-- The values in the lower half run away from the target range, unless it ends where all numbers
end, or they are rounded to its end. -/
theorem lowest_iff_of_wide {width span : Int} (hwide : 2 ^ 63 ≤ width) (hwidth : width < 2 ^ 64)
    (hspan : 0 < span) {out : Int} (hout : -2147483648 ≤ out) :
    (∀ d, 0 ≤ d → d < 2 ^ 63 → out ≤ max (-2147483648) (out - d * span / (2 ^ 64 - width))) ↔
      out = -2147483648 ∨ width = 2 ^ 63 ∧ span = 1 := by
  constructor
  · intro h
    by_contra hneither
    -- the last value before the half is the one that is farthest away
    have hlast := h (2 ^ 63 - 1) (by omega) (by omega)
    have hzero : (2 ^ 63 - 1) * span / (2 ^ 64 - width) < 1 := by omega
    rw [Int.ediv_lt_iff_lt_mul (by omega)] at hzero
    omega
  · rintro (rfl | ⟨rfl, rfl⟩) d hd hlt
    · omega
    · have hzero : d * 1 / (2 ^ 64 - 2 ^ 63) = 0 := Int.ediv_eq_zero_of_lt (by omega) (by omega)
      omega

/-- The values in the upper half come from beyond the target range, unless it ends where all
numbers end, or they are rounded to its end. -/
theorem highest_iff_of_wide {width span : Int} (hwide : 2 ^ 63 ≤ width) (hwidth : width < 2 ^ 64)
    (hspan : 0 < span) {out : Int} (hout : out + span ≤ 2147483647) :
    (∀ d, 2 ^ 63 ≤ d → d ≤ width →
        min 2147483647 (out + (2 ^ 64 - d) * span / (2 ^ 64 - width)) ≤ out + span) ↔
      out + span = 2147483647 ∨ (span + 1) * (width - 2 ^ 63) < 2 ^ 63 := by
  have hmiddle : (2 ^ 64 - 2 ^ 63) * span / (2 ^ 64 - width) < span + 1 ↔
      (span + 1) * (width - 2 ^ 63) < 2 ^ 63 := by
    rw [Int.ediv_lt_iff_lt_mul (by omega)]
    constructor <;> intro h <;> linarith
  constructor
  · intro h
    by_contra hneither
    -- the first value after the half is the one that is farthest away
    have hfirst := h (2 ^ 63) le_rfl hwide
    omega
  · rintro (heq | hrounded) d hd hle
    · omega
    · have hshare : (2 ^ 64 - d) * span ≤ (2 ^ 64 - 2 ^ 63) * span :=
        Int.mul_le_mul_of_nonneg_right (by omega) hspan.le
      have hquotient := Int.ediv_le_ediv (c := 2 ^ 64 - width) (by omega) hshare
      have hlast := hmiddle.mpr hrounded
      omega

/-- Every place in the range is that of a value, and this stays in the target range. -/
theorem MapsOnto.exists_value {d : Int} (h : MapsOnto low high outLow outHigh) (hd : 0 ≤ d)
    (hle : d ≤ distance low high) :
    ∃ v, distance low v = d ∧ outLow.toInt ≤ (v.rescale low high outLow outHigh).toInt ∧
      (v.rescale low high outLow outHigh).toInt ≤ outHigh.toInt := by
  obtain ⟨v, rfl⟩ := exists_distance_eq hd hle
  have hv : low.toRat ≤ v.toRat := toRat_le_iff.mpr (Int.sub_nonneg.mp hd)
  have hvle : v.toRat ≤ high.toRat := by
    apply toRat_le_iff.mpr
    simp only [distance] at hle
    omega
  exact ⟨v, rfl, by simpa only [Int32.le_iff_toInt_le] using h.within v hv hvle⟩

/-- If no value leaves the target range, all of the lower half goes to the low end, and all of the
upper half to the high end. -/
theorem mapsOnto_of_wide (hwide : 2 ^ 63 ≤ distance low high) (hout : outLow ≤ outHigh)
    (hlower : ∀ d, 0 ≤ d → d < 2 ^ 63 → outLow.toInt ≤ max (-2147483648)
      (outLow.toInt - d * (outHigh.toInt - outLow.toInt) / (2 ^ 64 - distance low high)))
    (hupper : ∀ d, 2 ^ 63 ≤ d → d ≤ distance low high → min 2147483647
      (outLow.toInt + (2 ^ 64 - d) * (outHigh.toInt - outLow.toInt) /
        (2 ^ 64 - distance low high)) ≤ outHigh.toInt) :
    MapsOnto low high outLow outHigh := by
  have hwidth := distance_lt low high
  have hspan : 0 ≤ outHigh.toInt - outLow.toInt := by
    simpa [Int32.le_iff_toInt_le] using hout
  have hlow := outLow.le_toInt
  have hhigh := outHigh.toInt_lt
  refine .of_value (by omega)
    (fun d => if d < 2 ^ 63 then outLow.toInt else outHigh.toInt) (fun v hv hvle => ?_) ?_ ?_ ?_
  · split
    · next hlt =>
      have hkept := hlower _ hv hlt
      have hshare : 0 ≤ distance low v * (outHigh.toInt - outLow.toInt) /
          (2 ^ 64 - distance low high) :=
        Int.ediv_nonneg (Int.mul_nonneg hv hspan) (by omega)
      rw [toInt_rescale_of_le_of_lt hv hlt hwide hout]
      omega
    · next hnot =>
      have hge : 2 ^ 63 ≤ distance low v := by omega
      have hkept := hupper _ hge hvle
      have hshare : outHigh.toInt - outLow.toInt ≤
          (2 ^ 64 - distance low v) * (outHigh.toInt - outLow.toInt) /
            (2 ^ 64 - distance low high) := by
        apply Int.le_ediv_of_mul_le (by omega)
        rw [Int.mul_comm]
        exact Int.mul_le_mul_of_nonneg_right (by omega) hspan
      rw [toInt_rescale_of_le hge hvle hout]
      omega
  · simp
  · exact if_neg (by omega)
  -- a step function is monotone
  · intro d e _ hde _
    show (if d < 2 ^ 63 then _ else _) ≤ (if e < 2 ^ 63 then _ else _)
    split <;> split <;> omega

theorem mapsOnto_iff_of_wide (hwide : 2 ^ 63 ≤ distance low high) (hout : outLow < outHigh) :
    MapsOnto low high outLow outHigh ↔
      (outLow = Int32.minValue ∨
        distance low high = 2 ^ 63 ∧ outHigh.toInt - outLow.toInt = 1) ∧
      (outHigh = Int32.maxValue ∨
        (outHigh.toInt - outLow.toInt + 1) * (distance low high - 2 ^ 63) < 2 ^ 63) := by
  have hwidth := distance_lt low high
  have hspan : 0 < outHigh.toInt - outLow.toInt := by
    simpa [Int32.lt_iff_toInt_lt] using hout
  have hle : outLow ≤ outHigh := Int32.le_of_lt hout
  have hsum : outLow.toInt + (outHigh.toInt - outLow.toInt) = outHigh.toInt := by omega
  have hlow := outLow.le_toInt
  have hhigh := outHigh.toInt_lt
  have hmin : outLow = Int32.minValue ↔ outLow.toInt = -2147483648 := by
    rw [← Int32.toInt_inj]
    rfl
  have hmax : outHigh = Int32.maxValue ↔
      outLow.toInt + (outHigh.toInt - outLow.toInt) = 2147483647 := by
    rw [← Int32.toInt_inj, hsum]
    rfl
  rw [hmin, hmax, ← lowest_iff_of_wide hwide hwidth hspan hlow,
    ← highest_iff_of_wide hwide hwidth hspan (by omega), hsum]
  constructor
  · refine fun h => ⟨fun d hd hlt => ?_, fun d hd hdle => ?_⟩
    · obtain ⟨v, rfl, hge, -⟩ := h.exists_value hd (by omega)
      rwa [toInt_rescale_of_le_of_lt hd hlt hwide hle] at hge
    · obtain ⟨v, rfl, -, hle'⟩ := h.exists_value (by omega) hdle
      rwa [toInt_rescale_of_le hd hdle hle] at hle'
  · rintro ⟨hlower, hupper⟩
    exact mapsOnto_of_wide hwide hle hlower hupper

/-- A range of a device is mapped into the target range as it should be if its width is below 2^31.
If it is wider, the lower half of it has to be kept from leaving the target range at the low end,
and the upper half at the high end. -/
theorem mapsOnto_iff (hrange : low.toRat < high.toRat) (hout : outLow ≤ outHigh) :
    MapsOnto low high outLow outHigh ↔
      high.toRat - low.toRat < 2 ^ 31 ∨ outLow = outHigh ∨
        (outLow = Int32.minValue ∨
          high.toRat - low.toRat = 2 ^ 31 ∧ outHigh.toInt - outLow.toInt = 1) ∧
        (outHigh = Int32.maxValue ∨
          ((outHigh.toInt - outLow.toInt + 1 : Int) : ℚ) *
            (high.toRat - low.toRat - 2 ^ 31) < 2 ^ 31) := by
  -- an empty range is left out, so there is a width to divide by
  have hpos : 0 < distance low high := Int.sub_pos.mpr (toRat_lt_iff.mp hrange)
  -- the widths are counted in units of 2^-32
  have hnarrow : high.toRat - low.toRat < 2 ^ 31 ↔ distance low high < 2 ^ 63 := by
    rw [toRat_sub_toRat, div_lt_iff₀ (by positivity)]
    norm_cast
  have hhalf : high.toRat - low.toRat = 2 ^ 31 ↔ distance low high = 2 ^ 63 := by
    rw [toRat_sub_toRat, div_eq_iff (by positivity)]
    norm_cast
  have hrounded : ∀ n : Int, (n : ℚ) * (high.toRat - low.toRat - 2 ^ 31) < 2 ^ 31 ↔
      n * (distance low high - 2 ^ 63) < 2 ^ 63 := by
    intro n
    have hunits : (n : ℚ) * (high.toRat - low.toRat - 2 ^ 31) =
        ((n * (distance low high - 2 ^ 63) : Int) : ℚ) / 2 ^ 32 := by
      rw [toRat_sub_toRat]
      push_cast
      ring
    rw [hunits, div_lt_iff₀ (by positivity)]
    norm_cast
  rw [hnarrow, hhalf, hrounded]
  by_cases hwidth : distance low high < 2 ^ 63
  · exact iff_of_true (mapsOnto_of_narrow hpos hwidth hout) (.inl hwidth)
  by_cases heq : outLow = outHigh
  · exact iff_of_true (mapsOnto_of_eq hpos heq) (.inr (.inl heq))
  rw [mapsOnto_iff_of_wide (by omega) (Int32.lt_of_le_of_ne hout heq)]
  simp only [hwidth, heq, false_or]

/-- The widest range that is mapped onto the values of a 16-bit axis. -/
theorem narrowRange_mapsOnto :
    (⟨-1073741824, 0⟩ : Fixed32).toRat < (⟨1073741823, 4294967295⟩ : Fixed32).toRat ∧
      MapsOnto ⟨-1073741824, 0⟩ ⟨1073741823, 4294967295⟩ 0 65535 := by
  have hrange :
      (⟨-1073741824, 0⟩ : Fixed32).toRat < (⟨1073741823, 4294967295⟩ : Fixed32).toRat := by
    apply toRat_lt_iff.mpr
    decide
  have hwidth : distance ⟨-1073741824, 0⟩ ⟨1073741823, 4294967295⟩ = 2 ^ 63 - 1 := by decide
  refine ⟨hrange, (mapsOnto_iff hrange (by decide)).mpr (.inl ?_)⟩
  rw [toRat_sub_toRat, hwidth]
  norm_num

/-- The zero of a device whose range is all of the integers. -/
theorem wideRange_escapes :
    (⟨-2147483648, 0⟩ : Fixed32).toRat < (⟨2147483647, 0⟩ : Fixed32).toRat ∧
      (⟨-2147483648, 0⟩ : Fixed32).toRat ≤ (⟨0, 0⟩ : Fixed32).toRat ∧
      (⟨0, 0⟩ : Fixed32).toRat ≤ (⟨2147483647, 0⟩ : Fixed32).toRat ∧
      ¬(⟨0, 0⟩ : Fixed32).rescale ⟨-2147483648, 0⟩ ⟨2147483647, 0⟩ 0 65535 ≤ 65535 := by
  refine ⟨toRat_lt_iff.mpr ?_, toRat_le_iff.mpr ?_, toRat_le_iff.mpr ?_, ?_⟩ <;> decide

end Fixed32

/-! ## Positions -/

/-- A position in parts of 65535 is rounded to the nearest pixel. -/
theorem toInt_fixed16Round (v : Int32) :
    (fixed16Round v).toInt = (2 * v.toInt + 65535) / (2 * 65535) := by
  have hlow := v.le_toInt
  have hhigh := v.toInt_lt
  unfold fixed16Round fixed16ToBinary64 clampInt32
  rw [Binary64.round_ofQuotient (by decide) (by omega), Int32.toInt_ofInt_of_le] <;> omega

theorem fixed16Round_bounds (v : Int32) :
    -32769 ≤ (fixed16Round v).toInt ∧ (fixed16Round v).toInt ≤ 32768 := by
  have hlow := v.le_toInt
  have hhigh := v.toInt_lt
  rw [toInt_fixed16Round]
  omega

theorem fixed16Round_minValue : (fixed16Round Int32.minValue).toInt = -32769 := by
  rw [toInt_fixed16Round]
  decide

theorem fixed16Round_maxValue : (fixed16Round Int32.maxValue).toInt = 32768 := by
  rw [toInt_fixed16Round]
  decide

end InputBridge
