-- SUMMARY: Sums and differences of machine numbers that have no result where they do not fit.

/-!
# Overflow

Sums and differences of machine numbers are checked. Where one does not fit there is no number to
go on with, and the program ends.
-/

namespace InputBridge

/-- What ends the program: a sum or a difference that does not fit. -/
inductive Overflow where
  | add
  | subtract
  deriving DecidableEq, Repr

def Overflow.message : Overflow → String
  | .add => "attempt to add with overflow"
  | .subtract => "attempt to subtract with overflow"

/-- The difference of two numbers. -/
def checkedSub (a b : Int32) : Except Overflow Int32 :=
  let difference := a.toInt - b.toInt
  if -2147483648 ≤ difference ∧ difference ≤ 2147483647 then .ok (.ofInt difference)
  else .error .subtract

/-- The number after another. -/
def checkedNext (n : UInt32) : Except Overflow UInt32 :=
  if n.toNat + 1 < UInt32.size then .ok (n + 1) else .error .add

end InputBridge
