-- SUMMARY: Encoding and decoding of UTF-16.

/-!
# UTF-16

Text as 16-bit units. Decoding refuses a surrogate that has no partner.
-/

namespace InputBridge.Text.Utf16

/-- The units of one character: one, or a surrogate pair. -/
def encodeChar (c : Char) : List UInt16 :=
  if c.toNat < 0x10000 then [UInt16.ofNat c.toNat]
  else
    let n := c.toNat - 0x10000
    [UInt16.ofNat (0xD800 + n / 0x400), UInt16.ofNat (0xDC00 + n % 0x400)]

/-- The units of a text. -/
def encode (s : String) : List UInt16 :=
  s.toList.flatMap encodeChar

def isHighSurrogate (u : UInt16) : Bool := 0xD800 ≤ u && u ≤ 0xDBFF
def isLowSurrogate (u : UInt16) : Bool := 0xDC00 ≤ u && u ≤ 0xDFFF

/-- The characters of the units, `none` when a surrogate stands alone. -/
def decodeChars? : List UInt16 → Option (List Char)
  | [] => some []
  | u :: rest =>
    if isHighSurrogate u then
      match rest with
      | v :: rest' =>
        if isLowSurrogate v then
          let n := 0x10000 + (u.toNat - 0xD800) * 0x400 + (v.toNat - 0xDC00)
          (decodeChars? rest').map (Char.ofNat n :: ·)
        else none
      | [] => none
    else if isLowSurrogate u then none
    else (decodeChars? rest).map (Char.ofNat u.toNat :: ·)

/-- The text of well-formed UTF-16. -/
def decode? (units : List UInt16) : Option String :=
  (decodeChars? units).map String.ofList

end InputBridge.Text.Utf16
