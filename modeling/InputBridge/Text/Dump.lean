-- SUMMARY: Values as text that shows everything in them.
import InputBridge.Text.Quoted

/-!
# Values in full

Values as text that shows everything in them: constructors by name, records with
the names of their fields, text in quotes.
-/

namespace InputBridge

/-- Types whose values can be written out in full. -/
class Dump (α : Type) where
  dump : α → String

export Dump (dump)

namespace Dump

/-! ## Shapes -/

/-- Parts separated by commas. -/
def commas (parts : List String) : String := ", ".intercalate parts

/-- A constructor with what it holds. -/
def call (name : String) (parts : List String) : String := s!"{name}({commas parts})"

/-- A record that ends with `last` if not with its last field. -/
def recordWith (last : List String) (name : String) (fields : List (String × String)) : String :=
  let fields := fields.map fun (field, value) => s!"{field}: {value}"
  name ++ " \x7b " ++ commas (fields ++ last) ++ " \x7d"

/-- A record with its fields. -/
def record (name : String) (fields : List (String × String)) : String := recordWith [] name fields

/-! ## Simple types -/

instance : Dump Bool := ⟨fun b => if b then "true" else "false"⟩
instance : Dump Nat := ⟨toString⟩
instance : Dump UInt8 := ⟨fun n => toString n.toNat⟩
instance : Dump UInt16 := ⟨fun n => toString n.toNat⟩
instance : Dump UInt32 := ⟨fun n => toString n.toNat⟩
instance : Dump UInt64 := ⟨fun n => toString n.toNat⟩
instance : Dump Int32 := ⟨fun n => toString n.toInt⟩
instance : Dump String := ⟨Text.quoted⟩

instance {α : Type} [Dump α] : Dump (List α) := ⟨fun xs => s!"[{commas (xs.map dump)}]"⟩

instance {α : Type} [Dump α] : Dump (Option α) := ⟨fun
  | none => "None"
  | some x => call "Some" [dump x]⟩

end Dump

end InputBridge
