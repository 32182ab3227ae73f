-- SUMMARY: Numbers as text, and the reader for numbers with their faults.

/-!
# Numerals

Hexadecimal and padded text of numbers, and the reader for the numbers a user
types: an optional sign followed by digits of the base, in a given range.
-/

namespace InputBridge.Text

/-! ## Writing -/

/-- Fills `s` up to `width` characters with `fill` on its left. -/
def padLeft (fill : Char) (width : Nat) (s : String) : String :=
  String.ofList (List.replicate (width - s.length) fill) ++ s

/-- Fills `s` up to `width` characters with spaces on its right. -/
def padRight (width : Nat) (s : String) : String :=
  s ++ String.ofList (List.replicate (width - s.length) ' ')

/-- Lower-case hexadecimal digits of `n`, at least `width` of them. -/
def hexDigits (width n : Nat) : String :=
  padLeft '0' width (String.ofList (Nat.toDigits 16 n))

/-- Hexadecimal text of `n` with `0x` in front, at least `width` digits. -/
def hex (width n : Nat) : String := "0x" ++ hexDigits width n

/-! ## Reading -/

/-- Why a text is not a number of the wanted range. -/
inductive NumeralError where
  | empty
  | invalidDigit
  | tooLarge
  | tooSmall
  deriving DecidableEq, Repr

def NumeralError.message : NumeralError → String
  | .empty => "cannot parse integer from empty string"
  | .invalidDigit => "invalid digit found in string"
  | .tooLarge => "number too large to fit in target type"
  | .tooSmall => "number too small to fit in target type"

/-- The value of a digit, letters of either case from ten on. -/
def digitValue? (base : Nat) (c : Char) : Option Nat :=
  let n :=
    if '0' ≤ c && c ≤ '9' then c.toNat - '0'.toNat
    else if 'a' ≤ c && c ≤ 'z' then c.toNat - 'a'.toNat + 10
    else if 'A' ≤ c && c ≤ 'Z' then c.toNat - 'A'.toNat + 10
    else base
  if n < base then some n else none

/-- Reads digits onto the number `acc`, which `step` extends by a digit or gives
up. The digits are read in order, so the first fault is the one reported. -/
def readDigits (base : Nat) (step : Int → Nat → Except NumeralError Int) :
    Int → List Char → Except NumeralError Int
  | acc, [] => .ok acc
  | acc, c :: rest =>
    match digitValue? base c with
    | none => .error .invalidDigit
    | some d =>
      match step acc d with
      | .error e => .error e
      | .ok acc' => readDigits base step acc' rest

/-- Extends a magnitude that may not pass `max`. -/
def growUpTo (base : Nat) (max : Int) (acc : Int) (d : Nat) : Except NumeralError Int :=
  if acc * base + d ≤ max then .ok (acc * base + d) else .error .tooLarge

/-- Extends a negative number that may not pass `min`. -/
def growDownTo (base : Nat) (min : Int) (acc : Int) (d : Nat) : Except NumeralError Int :=
  if min ≤ acc * base - d then .ok (acc * base - d) else .error .tooSmall

/-- The number written by `s` in `base`, if it lies between `min` and `max`. A
plus sign is always allowed, a minus sign where the range has negative numbers.
Digits are read from the left, and the first one that is wrong or leaves the range
decides the error. -/
def parseInt (base : Nat) (min max : Int) (s : String) : Except NumeralError Int :=
  match s.toList with
  | [] => .error .empty
  | ['+'] | ['-'] => .error .invalidDigit
  | '+' :: digits => readDigits base (growUpTo base max) 0 digits
  | '-' :: digits =>
    if min < 0 then readDigits base (growDownTo base min) 0 digits
    else .error .invalidDigit
  | digits => readDigits base (growUpTo base max) 0 digits

end InputBridge.Text
