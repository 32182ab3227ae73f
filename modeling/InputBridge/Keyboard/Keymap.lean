-- SUMMARY: Keymaps as values: keycodes, groups, key names, modifiers and characters.

/-!
# Keymaps

What a compiled keymap answers: which keycodes there are, what the groups and
keys are called, which bits the modifiers have, and which character a key
produces. A keymap is a value; asking it changes nothing.
-/

namespace InputBridge

structure Keymap where
  /-- The smallest and the largest keycode. -/
  minKeycode : UInt32
  maxKeycode : UInt32
  /-- The number of groups. -/
  groups : UInt32
  /-- The descriptive name of a group. -/
  groupName : UInt32 → Option String
  /-- The name of the first symbol of a key in a group. -/
  symbolName : (keycode group : UInt32) → Option String
  /-- The mask of a modifier, 0 if the keymap does not have it. -/
  modifierMask : String → UInt32
  /-- The character of a key in a group under modifiers. -/
  character : (keycode group modifiers : UInt32) → Option Char

namespace Keymap

/-- The keycodes in increasing order. -/
def keycodes (k : Keymap) : List UInt32 :=
  (List.range' k.minKeycode.toNat (k.maxKeycode.toNat + 1 - k.minKeycode.toNat)).map UInt32.ofNat

end Keymap

/-- The masks of the modifiers that matter for reading key state. -/
structure Masks where
  shift : UInt32 := 0
  ctrl : UInt32 := 0
  alt : UInt32 := 0
  altgr : UInt32 := 0
  caps : UInt32 := 0
  num : UInt32 := 0
  deriving DecidableEq, Repr, Inhabited

namespace Masks

/-- The first mask that is not 0 among those of the given names. -/
def firstOf (k : Keymap) (names : List String) : UInt32 :=
  ((names.map k.modifierMask).find? (· != 0)).getD 0

/-- The masks of a keymap's modifiers. -/
def ofKeymap (k : Keymap) : Masks where
  shift := firstOf k ["Shift"]
  ctrl := firstOf k ["Control"]
  alt := firstOf k ["Mod1"]
  altgr := firstOf k ["Mod5", "LevelThree"]
  caps := firstOf k ["Lock"]
  num := firstOf k ["Mod2", "NumLock"]

end Masks

end InputBridge
