-- SUMMARY: The records of keyboard tables: scan tables, modifiers, characters and key names.
import InputBridge.Text.Numeral

/-!
# Keyboard tables

The tables by which a desktop turns scan codes into virtual keys and virtual keys
into characters, for one keyboard layout.
-/

namespace InputBridge

/-- The characters of a virtual key, one for each combination of modifiers: bit 0
of the place is Shift, bit 1 Ctrl, bit 2 AltGr. -/
structure CharRow where
  vk : UInt8
  attributes : UInt8
  chars : Vector UInt16 8
  deriving DecidableEq, Repr

namespace CharRow

/-- Stands for no character. -/
def noChar : UInt16 := 0xf000

/-- Attribute of a row that Caps Lock shifts. -/
def capsShifts : UInt8 := 0x01

/-- Attribute of a row whose Caps Lock characters follow in a row of their own. -/
def capsRowFollows : UInt8 := 0x02

end CharRow

/-- The name of the key with a scan byte. -/
structure KeyName where
  scan : UInt8
  name : String
  deriving DecidableEq, Repr, Inhabited

structure KeyTables where
  localeFlags : UInt32 := 0
  /-- Modifier keys with their bits. -/
  modifierBits : List (UInt8 × UInt8) := []
  maxModifierBits : UInt16 := 0
  /-- The place in a character row for each combination of modifier bits. -/
  modifierPlaces : Vector UInt8 8 := Vector.replicate 8 0
  charRows : List CharRow := []
  /-- Virtual keys of the base scan codes, by scan byte. -/
  base : List UInt16 := List.replicate 256 0
  /-- Virtual keys of the first and second extended range, by scan byte. -/
  extended0 : List (UInt8 × UInt16) := []
  extended1 : List (UInt8 × UInt16) := []
  names : List KeyName := []
  namesExtended : List KeyName := []
  deriving DecidableEq, Repr

namespace KeyTables

/-- The number of base scan codes. -/
def baseSize : Nat := 256

/-- Locale flag of a layout whose right Alt is AltGr. -/
def altGrFlag : UInt32 := 0x0001

/-- No entry looks like the end of the list it stands in, and every base scan
code has its place. -/
structure WellFormed (t : KeyTables) : Prop where
  modifierBits : ∀ e ∈ t.modifierBits, e.1 ≠ 0
  charRows : ∀ r ∈ t.charRows, r.vk ≠ 0
  base : t.base.length = baseSize
  extended0 : ∀ e ∈ t.extended0, e.1 ≠ 0
  extended1 : ∀ e ∈ t.extended1, e.1 ≠ 0
  names : ∀ n ∈ t.names, n.scan ≠ 0 ∧ '\x00' ∉ n.name.toList
  namesExtended : ∀ n ∈ t.namesExtended, n.scan ≠ 0 ∧ '\x00' ∉ n.name.toList

end KeyTables

/-! ## Errors -/

/-- A part of keyboard tables that another part refers to. -/
inductive TablePart where
  | modifiers | bits | charTable | charRows | base | extended0 | extended1 | names | namesExtended
  /-- The text of a name, by its place among the names and after these the extended ones. -/
  | text (i : Nat)
  deriving DecidableEq, Repr

def TablePart.name : TablePart → String
  | .modifiers => "Modifiers"
  | .bits => "VkToBit"
  | .charTable => "WcharTable"
  | .charRows => "Wchars"
  | .base => "VscToVk"
  | .extended0 => "VscToVkE0"
  | .extended1 => "VscToVkE1"
  | .names => "KeyNames"
  | .namesExtended => "KeyNamesExt"
  | .text i => s!"Str({i})"

/-- What is wrong with the bytes of keyboard tables. -/
inductive TableFault where
  /-- A part of `length` bytes at `offset` is not inside the bytes. -/
  | outOfBounds (offset length : Nat)
  /-- The character table has rows of another shape. -/
  | rowShape (columns size : Nat)
  /-- A key name is no well-formed text. -/
  | loneSurrogate
  /-- A part that is referred to is not there. -/
  | unresolved (part : TablePart)
  deriving DecidableEq, Repr

/-- Why a layout cannot be built or read. -/
inductive LayoutError where
  | keymap (reason : String)
  | tooLarge (size : Nat)
  | malformed (fault : TableFault)
  deriving DecidableEq, Repr

def TableFault.message : TableFault → String
  | .outOfBounds offset length => s!"offset {Text.hex 1 offset}+{length} out of bounds"
  | .rowShape columns size => s!"unexpected wchar table shape {columns}/{size}"
  | .loneSurrogate => "key name: invalid utf-16: lone surrogate found"
  | .unresolved part => s!"unresolved pointer {part.name}"

def LayoutError.message : LayoutError → String
  | .keymap reason => s!"keymap unavailable: {reason}"
  | .tooLarge size => s!"keyboard tables too large: {size} bytes"
  | .malformed fault => s!"malformed keyboard tables: {fault.message}"

end InputBridge
