-- SUMMARY: Bytes as hexadecimal digits.

/-!
# Bytes in hexadecimal digits

Bytes as text, two lower-case digits for each, the high one first.
-/

namespace InputBridge.Text

namespace HexBytes

/-- The value of a lower-case digit. -/
def digitOf (c : Char) : Nat := if c ≤ '9' then c.toNat - 48 else c.toNat - 87

/-- The bytes that pairs of digits stand for. -/
def ofDigits : List Char → List UInt8
  | high :: low :: rest => .ofNat (16 * digitOf high + digitOf low) :: ofDigits rest
  | _ => []

def decode (s : String) : List UInt8 := ofDigits s.toList

def encode (bytes : List UInt8) : String :=
  .ofList (bytes.flatMap fun b => [(b.toNat / 16).digitChar, (b.toNat % 16).digitChar])

end HexBytes

end InputBridge.Text
