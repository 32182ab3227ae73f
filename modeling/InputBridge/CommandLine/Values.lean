-- SUMMARY: Readers for screens, layout handles, windows and positions.
import InputBridge.Input
import InputBridge.Text.Blank
import InputBridge.Text.Numeral
import InputBridge.Text.Quoted
import InputBridge.WindowTable

/-!
# Values on the command line

How screens, layout handles, windows and positions are written.
-/

namespace InputBridge

namespace CommandLine

/-! ## Screens -/

/-- What comes before and after the first `sep`. -/
def splitAtFirst (sep : Char) : List Char → Option (List Char × List Char)
  | [] => none
  | c :: rest =>
    if c = sep then some ([], rest)
    else (splitAtFirst sep rest).map fun (before, after) => (c :: before, after)

/-- A decimal number between `min` and `max`, with blanks around it. -/
def number? (min max : Int) (s : List Char) : Option Int :=
  (Text.parseInt 10 min max (String.ofList (Text.trim s))).toOption

inductive ScreenError where
  | malformed
  /-- The width or the height is 0. -/
  | empty
  deriving DecidableEq, Repr

def ScreenError.message (s : String) : ScreenError → String
  | .malformed => s!"expected X,Y,WxH, got {Text.quoted s}"
  | .empty => s!"empty rectangle {Text.quoted s}"

/-- The four numbers of `X,Y,WxH`. The first two commas separate, and the first
`x` after them. -/
def screenNumbers? (s : String) : Option (Int × Int × Int × Int) := do
  let (x, rest) ← splitAtFirst ',' s.toList
  let (y, size) ← splitAtFirst ',' rest
  let (w, h) ← splitAtFirst 'x' size
  return (← number? (-2147483648) 2147483647 x, ← number? (-2147483648) 2147483647 y,
    ← number? 0 4294967295 w, ← number? 0 4294967295 h)

/-- The far edge of an extent, as long as both fit. -/
def farEdge? (near extent : Int) : Option Int :=
  if extent ≤ 2147483647 ∧ near + extent ≤ 2147483647 then some (near + extent) else none

/-- The rectangle written as `X,Y,WxH`. -/
def parseScreen (s : String) : Except ScreenError Rect :=
  match screenNumbers? s with
  | none => .error .malformed
  | some (x, y, w, h) =>
    if w = 0 ∨ h = 0 then .error .empty
    else match farEdge? x w, farEdge? y h with
      | some right, some bottom =>
        .ok ⟨Int32.ofInt x, Int32.ofInt y, Int32.ofInt right, Int32.ofInt bottom⟩
      | _, _ => .error .malformed

/-! ## Layout handles and windows -/

/-- What follows `0x`, if the text begins with it. -/
def afterHexPrefix? (s : String) : Option String :=
  match s.toList with
  | '0' :: 'x' :: digits => some (String.ofList digits)
  | _ => none

/-- A layout handle in hexadecimal, with or without `0x` in front. -/
def parseLayout (s : String) : Except String UInt32 :=
  match Text.parseInt 16 0 4294967295 ((afterHexPrefix? s).getD s) with
  | .ok n => .ok (UInt32.ofInt n)
  | .error e => .error s!"bad layout handle {Text.quoted s}: {e.message}"

/-- A window in hexadecimal after `0x`, and otherwise in decimal. -/
def parseWindow (s : String) : Except String WindowId :=
  let n := match afterHexPrefix? s with
    | some digits => Text.parseInt 16 0 4294967295 digits
    | none => Text.parseInt 10 0 4294967295 s
  match n with
  | .ok n => if n = 0 then .error "window id 0 is not a window" else .ok (UInt32.ofInt n)
  | .error e => .error s!"bad window id {Text.quoted s}: {e.message}"

/-! ## Positions -/

/-- A coordinate: a number of 64 bits that lies in the range of 32 bits. -/
def parseCoordinate (s : String) : Except String Int32 :=
  match Text.parseInt 10 (-9223372036854775808) 9223372036854775807 s with
  | .error e => .error e.message
  | .ok n =>
    if -2147483648 ≤ n ∧ n ≤ 2147483647 then .ok (Int32.ofInt n)
    else .error s!"{n} is not in -2147483648..=2147483647"

end CommandLine

end InputBridge
