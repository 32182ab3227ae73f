-- SUMMARY: Types as values in a uniform way, with defaults for absent fields.
import InputBridge.Text.HexBytes
import InputBridge.Wire.Decode

/-!
# Records as values

Reading and writing of types as values in a uniform way. A record is a map from
names to values; a field that is absent or nil has the default of its type.
-/

namespace InputBridge

open Wire

/-- Types that can be read off a value. -/
class OfValue (α : Type) where
  ofValue? : Value → Option α

/-- Types that can be written as a value. -/
class ToValue (α : Type) where
  toValue : α → Value

export OfValue (ofValue?)
export ToValue (toValue)

/-! ## Reading -/

section Reading

variable {α β ρ σ : Type}

instance : OfValue Value := ⟨some⟩
instance : OfValue Bool := ⟨Value.toBool?⟩
instance : OfValue String := ⟨Value.toText?⟩
instance : OfValue Int := ⟨Value.toInt?⟩
instance : OfValue Nat := ⟨fun v => v.toInt?.map Int.toNat⟩
instance : OfValue UInt8 := ⟨fun v => v.toInt?.map UInt8.ofInt⟩
instance : OfValue UInt16 := ⟨fun v => v.toInt?.map UInt16.ofInt⟩
instance : OfValue UInt32 := ⟨fun v => v.toInt?.map UInt32.ofInt⟩
instance : OfValue UInt64 := ⟨fun v => v.toInt?.map UInt64.ofInt⟩
instance : OfValue Int32 := ⟨fun v => v.toInt?.map Int32.ofInt⟩

/-- Bytes that are written in hexadecimal digits. -/
structure HexBytes where
  bytes : List UInt8
  deriving DecidableEq, Repr, Inhabited

instance : OfValue HexBytes := ⟨fun v => v.toText?.map fun s => ⟨Text.HexBytes.decode s⟩⟩

/-- A text of one character. -/
instance : OfValue Char := ⟨fun
  | .text s => s.toList.head?
  | _ => none⟩

instance [OfValue α] : OfValue (List α) := ⟨fun
  | .array items => items.mapM ofValue?
  | _ => none⟩

/-- Nil is nothing. -/
instance [OfValue α] : OfValue (Option α) := ⟨fun
  | .nil => some none
  | v => (ofValue? v).map some⟩

/-- An array of eight. -/
instance [OfValue α] : OfValue (Vector α 8) := ⟨fun
  | .array [a, b, c, d, e, f, g, h] => do
    return #v[← ofValue? a, ← ofValue? b, ← ofValue? c, ← ofValue? d, ← ofValue? e, ← ofValue? f,
      ← ofValue? g, ← ofValue? h]
  | _ => none⟩

/-- The value of the first entry with a name. -/
def Wire.Value.field (v : Value) (name : String) : Value :=
  match v with
  | .map entries => ((entries.find? fun e => Value.isName name e.1).map (·.2)).getD .nil
  | _ => .nil

/-- The field with a name, or a default where it is absent or nil. -/
def Wire.Value.fieldD [OfValue α] (v : Value) (name : String) (default : α) : Option α :=
  match v.field name with
  | .nil => some default
  | x => ofValue? x

/-- Functions that can be applied to values one after the other. -/
class Fills (ρ σ : Type) where
  fill : σ → List Value → Option ρ

instance : Fills ρ ρ := ⟨fun x _ => some x⟩
instance [OfValue α] [Inhabited α] [Fills ρ σ] : Fills ρ (α → σ) := ⟨fun f vs => do
  let x ← match vs.headD .nil with
    | .nil => some default
    | v => ofValue? v
  Fills.fill (f x) vs.tail⟩

/-- Applies a function to the fields whose names, separated by spaces, are given. -/
def Wire.Value.record? [Fills ρ σ] (v : Value) (names : String) (f : σ) : Option ρ :=
  Fills.fill f ((names.splitOn " ").map v.field)

/-- Applies a function to the elements of an array. -/
def Wire.Value.row? [Fills ρ σ] (v : Value) (f : σ) : Option ρ :=
  match v with
  | .array items => Fills.fill f items
  | _ => none

instance [OfValue α] [Inhabited α] [OfValue β] [Inhabited β] : OfValue (α × β) :=
  ⟨fun v => v.row? fun (a : α) (b : β) => (a, b)⟩

/-- A map whose keys are texts that `key` reads. -/
def Wire.Value.entries? [OfValue α] (key : String → Option β) : Value → Option (List (β × α))
  | .map entries => entries.mapM fun (k, v) => do return (← key (← k.toText?), ← ofValue? v)
  | _ => none

end Reading

/-! ## Writing -/

section Writing

variable {α β : Type}

instance : ToValue Value := ⟨id⟩
instance : ToValue Unit := ⟨fun _ => .nil⟩
instance : ToValue Bool := ⟨.bool⟩
instance : ToValue String := ⟨.text⟩
instance : ToValue Nat := ⟨.ofNat⟩
instance : ToValue Int := ⟨.ofInt⟩
instance : ToValue UInt8 := ⟨fun n => .ofNat n.toNat⟩
instance : ToValue UInt16 := ⟨ofUInt16⟩
instance : ToValue UInt32 := ⟨ofUInt32⟩
instance : ToValue UInt64 := ⟨ofUInt64⟩
instance : ToValue Int32 := ⟨ofInt32⟩
instance : ToValue Char := ⟨fun c => .text (String.singleton c)⟩
instance [ToValue α] : ToValue (List α) := ⟨fun xs => .array (xs.map toValue)⟩
instance [ToValue α] : ToValue (Option α) := ⟨fun
  | none => .nil
  | some x => toValue x⟩

/-- Types that are written as several values in a row. -/
class Row (α : Type) where
  row : α → List Value

instance (priority := low) [ToValue α] : Row α := ⟨fun x => [toValue x]⟩
instance : Row (List Value) := ⟨id⟩
instance [ToValue α] [Row β] : Row (α × β) := ⟨fun (a, b) => toValue a :: Row.row b⟩
instance [ToValue α] [Row β] : ToValue (α × β) := ⟨fun x => .array (Row.row x)⟩

/-- The record of values under names that are separated by spaces. -/
def Wire.Value.ofFields [Row α] (names : String) (x : α) : Value :=
  .map (((names.splitOn " ").map Value.text).zip (Row.row x))

end Writing

/-! ## Messages -/

instance : OfValue Message := ⟨Message.ofValue?⟩
instance : OfValue Input := ⟨Input.ofValue?⟩
instance : OfValue Rect := ⟨Rect.ofValue?⟩
instance : OfValue LayoutEntry := ⟨LayoutEntry.ofValue?⟩
instance : ToValue Message := ⟨Message.toValue⟩
instance : ToValue Input := ⟨Input.toValue⟩
instance : ToValue Rect := ⟨Rect.toValue⟩

end InputBridge
