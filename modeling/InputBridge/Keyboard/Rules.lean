-- SUMMARY: The rules property: its strings, and the entries for a group.
import InputBridge.Text.Utf8

/-!
# The rules property

The display server's root window carries a property that names the keyboard
configuration: five strings, each ended by a zero byte. The third and fourth are
comma-separated lists with one entry per keyboard group.
-/

namespace InputBridge

/-- Splits a list at every `sep`. There is one part more than there are
separators. -/
def splitAtEach {α : Type} [BEq α] (sep : α) : List α → List (List α)
  | [] => [[]]
  | x :: rest =>
    match splitAtEach sep rest with
    | [] => [[]]
    | part :: parts => if x == sep then [] :: part :: parts else (x :: part) :: parts

/-- The keyboard configuration by name. -/
structure Rules where
  rules : String := ""
  model : String := ""
  layouts : List String := []
  variants : List String := []
  options : String := ""
  deriving DecidableEq, Repr, Inhabited

namespace Rules

/-- The entries of a comma-separated list. The empty text has none. -/
def entries (s : String) : List String :=
  if s.isEmpty then [] else (splitAtEach ',' s.toList).map String.ofList

/-- Reads the property. Fields that are not there are empty, and what follows the
fifth is left alone. -/
def ofBytes (bytes : List UInt8) : Rules :=
  let fields := (splitAtEach 0 bytes).map Text.Utf8.decodeLenient
  let field (i : Nat) : String := fields.getD i ""
  { rules := field 0
    model := field 1
    layouts := entries (field 2)
    variants := entries (field 3)
    options := field 4 }

/-- Layout and variant of a group, if the property names a layout for it. -/
def group? (r : Rules) (group : Nat) : Option (String × String) :=
  match r.layouts[group]? with
  | none => none
  | some layout => if layout.isEmpty then none else some (layout, r.variants.getD group "")

end Rules

end InputBridge
