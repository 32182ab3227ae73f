-- SUMMARY: 32.32 and 16.16 fixed point: subtraction, rescaling and rounding to pixels.
import InputBridge.Binary64

/-!
# Fixed point

Input devices report axis values as 32.32 fixed point and positions as 16.16
fixed point. Axis values are subtracted and rescaled exactly; a value that is
rounded to a pixel goes through the nearest 64-bit float first.
-/

namespace InputBridge

/-- An integer clamped to the 32-bit range. -/
def clampInt32 (n : Int) : Int32 :=
  Int32.ofInt (max (-2147483648) (min 2147483647 n))

/-! ## 32.32 -/

/-- The 32.32 fixed-point number `integral + frac / 2^32`. -/
structure Fixed32 where
  integral : Int32
  frac : UInt32
  deriving DecidableEq, Repr, Inhabited

namespace Fixed32

/-- The number times `2^32`. -/
def toRaw (v : Fixed32) : Int64 :=
  Int64.ofInt (v.integral.toInt * 4294967296 + v.frac.toNat)

/-- The number whose product with `2^32` is `n`. -/
def ofRaw (n : Int64) : Fixed32 where
  integral := Int32.ofInt (n.toInt / 4294967296)
  frac := UInt32.ofInt (n.toInt % 4294967296)

/-- The difference, wrapping around the 64-bit range. -/
def sub (a b : Fixed32) : Fixed32 :=
  ofRaw (a.toRaw - b.toRaw)

/-- The nearest 64-bit float. -/
def toBinary64 (v : Fixed32) : Binary64 :=
  .ofQuotient v.toRaw.toInt 4294967296

/-- The nearest integer to the nearest float, a half away from zero. -/
def round (v : Fixed32) : Int32 :=
  clampInt32 v.toBinary64.round

/-- Rescales `value` from the range `[min, max]` of a device into
`[outMin, outMax]`. A range of width zero scales by one: the result is `outMin`
plus the rounded offset. -/
def rescale (value min max : Fixed32) (outMin outMax : Int32) : Int32 :=
  let offset := (value.sub min).toRaw.toInt
  let width := (max.sub min).toRaw.toInt
  -- an axis whose ends coincide cannot be divided by
  if width = 0 then
    clampInt32 (outMin.toInt + (value.sub min).round.toInt)
  else
    let span := outMax.toInt - outMin.toInt
    clampInt32 (outMin.toInt + (offset * span).tdiv width)

end Fixed32

/-! ## 16.16 -/

/-- A 16.16 position as the nearest 64-bit float. The full scale of the fraction
is 65535. -/
def fixed16ToBinary64 (v : Int32) : Binary64 :=
  .ofQuotient v.toInt 65535

/-- A 16.16 position in whole pixels, a half away from zero. -/
def fixed16Round (v : Int32) : Int32 :=
  clampInt32 (fixed16ToBinary64 v).round

end InputBridge
