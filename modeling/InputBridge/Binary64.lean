-- SUMMARY: Correctly rounded quotients in binary64, and rounding them to integers.

/-!
# Binary64

Correctly rounded quotients in the 64-bit binary floating-point format, for
quotients whose exponent is within the format's normal range. The value is kept
exact: an integer significand below 2^53 times a power of two.
-/

namespace InputBridge

/-- The number `(-1)^negative · significand · 2^exponent`. -/
structure Binary64 where
  negative : Bool
  significand : Nat
  exponent : Int
  deriving DecidableEq, Repr

namespace Binary64

def zero : Binary64 := ⟨false, 0, 0⟩

/-- `num / den` rounded to the nearest natural number, a tie to the even one. -/
def roundHalfEven (num den : Nat) : Nat :=
  let q := num / den
  let r := num % den
  if 2 * r < den then q
  else if 2 * r = den then q + q % 2
  else q + 1

/-- Numerator and denominator of `num / den · 2^(-e)`. -/
def scaled (num den : Nat) (e : Int) : Nat × Nat :=
  if e < 0 then (num <<< e.natAbs, den) else (num, den <<< e.natAbs)

/-- The quotient of two positive numbers rounded to 53 significant bits, as a
significand and an exponent. -/
def roundQuotient (num den : Nat) : Nat × Int :=
  let low : Int := (num.log2 : Int) - den.log2 - 53
  let (n, d) := scaled num den low
  let e := if n / d < 1 <<< 53 then low else low + 1
  let (n, d) := scaled num den e
  (roundHalfEven n d, e)

/-- The correctly rounded quotient `num / den`, for a positive `den`. -/
def ofQuotient (num : Int) (den : Nat) : Binary64 :=
  if num = 0 then zero
  else
    let (m, e) := roundQuotient num.natAbs den
    ⟨num < 0, m, e⟩

/-- The nearest integer, a half away from zero. -/
def round (x : Binary64) : Int :=
  let magnitude :=
    if x.exponent < 0 then
      let unit := 1 <<< x.exponent.natAbs
      (2 * x.significand + unit) / (2 * unit)
    else x.significand <<< x.exponent.natAbs
  if x.negative then -(magnitude : Int) else magnitude

/-- The 64-bit word of the number: sign, biased exponent, fraction. -/
def toBits (x : Binary64) : UInt64 :=
  if x.significand = 0 then 0
  else
    let shift := 52 - x.significand.log2
    let fraction := (x.significand <<< shift) - (1 <<< 52)
    let biased := (x.exponent + 52 - shift + 1023).toNat
    UInt64.ofNat ((if x.negative then 1 <<< 63 else 0) + (biased <<< 52) + fraction)

end Binary64

end InputBridge
