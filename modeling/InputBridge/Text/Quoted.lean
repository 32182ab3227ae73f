-- SUMMARY: Text between quotes, with escapes.
import InputBridge.Text.Hidden
import InputBridge.Text.Numeral

/-!
# Quoted text

Text between double quotes, in which the quote, the backslash and everything that
would not show are escaped.
-/

namespace InputBridge.Text

/-- A character as it stands in quoted text. -/
def escapeChar (c : Char) : List Char :=
  if c = '\x00' then ['\\', '0']
  else if c = '\t' then ['\\', 't']
  else if c = '\r' then ['\\', 'r']
  else if c = '\n' then ['\\', 'n']
  else if c = '"' || c = '\\' then ['\\', c]
  else if isHidden c then ['\\', 'u', '\x7b'] ++ (hexDigits 1 c.toNat).toList ++ ['\x7d']
  else [c]

/-- The text between quotes. -/
def quoted (s : String) : String :=
  String.ofList ('"' :: s.toList.flatMap escapeChar ++ ['"'])

end InputBridge.Text
