-- SUMMARY: Layouts built from the groups of a keymap, and sets of them with an active one.
import InputBridge.Keyboard.Keymap
import InputBridge.Keyboard.Language
import InputBridge.Keyboard.Rules
import InputBridge.Keyboard.ScanCode
import InputBridge.Keyboard.Tables.Draft

/-!
# Keyboard layouts

A layout is built for each group of a keymap: the base layout of its language,
the modifier masks, and the keyboard tables with their image. A set of layouts
belongs to one display connection; at most one of its layouts is active.

Layouts of the same language are told apart by an index, and by an id that is
drawn from a counter and never given back.
-/

namespace InputBridge

structure Layout where
  group : UInt32
  /-- Layout code, variant and options, separated by colons. -/
  name : String
  lang : LangId
  /-- The number of earlier layouts of the same language. -/
  index : UInt16
  /-- 0 for the first layout of a language. -/
  layoutId : UInt16
  scanLayout : ScanLayout
  masks : Masks
  tables : KeyTables
  image : List UInt8
  deriving DecidableEq, Repr

namespace Layout

/-! ## Handles -/

/-- The word that tells the layouts of a set apart. -/
def highWord (l : Layout) : UInt16 :=
  if l.layoutId = 0 then l.lang else 0xf000 ||| l.layoutId

/-- The layout's handle: language in the low word, `highWord` in the high one. -/
def hkl (l : Layout) : UInt32 :=
  (l.highWord.toUInt32 <<< 16) ||| l.lang.toUInt32

/-- The bits of the layout's group in the state of a key event. -/
def groupMask (l : Layout) : UInt32 := l.group <<< 13

/-! ## Base layout -/

/-- The lower-case form of a character, as far as it is an ASCII letter. Besides
the ASCII capitals only the Kelvin sign has one. -/
def lowerAscii (c : Char) : Char :=
  if c = '\u212a' then 'k' else c.toLower

/-- Whether `word` occurs in a text. -/
def occurs (word : List Char) : List Char → Bool
  | [] => word.isEmpty
  | c :: rest => word.isPrefixOf (c :: rest) || occurs word rest

/-- Whether `word`, in lower case, occurs in the text whatever its case. -/
def mentions (word text : String) : Bool :=
  occurs word.toList (text.toList.map lowerAscii)

/-- The base layout by name and description, or else by primary language. -/
def chooseScanLayout (lang : LangId) (name description : String) : ScanLayout :=
  if mentions "dvorak" name || mentions "dvorak" description then .dvorak
  else if lang.primary = LangId.french then .azerty
  else if lang.primary = LangId.german then .qwertz
  else .qwerty

/-! ## Characters -/

/-- A character as it stands in a character row. -/
def rowChar : Option Char → UInt16
  | some c => if c.toNat ≠ 0 ∧ c.toNat ≤ 0xffff then UInt16.ofNat c.toNat else CharRow.noChar
  | none => CharRow.noChar

/-- The modifiers held for a place in a character row, `none` where Ctrl is one
of them. -/
def placeModifiers (masks : Masks) (place : Nat) : Option UInt32 :=
  if place.testBit 1 then none
  else some ((if place.testBit 0 then masks.shift else 0)
    ||| (if place.testBit 2 then masks.altgr else 0))

/-- The characters of a key with the modifiers `also` held in every place. -/
def placeChars (keymap : Keymap) (keycode group : UInt32) (masks : Masks) (also : UInt32) :
    Vector UInt16 8 :=
  Vector.ofFn fun place =>
    match placeModifiers masks place.val with
    | none => CharRow.noChar
    | some held => rowChar (keymap.character keycode group (held ||| also))

/-- The rows of a key: none if it produces no character, one if Caps Lock changes
nothing, else one without and one with Caps Lock. -/
def charRows (keymap : Keymap) (keycode group : UInt32) (vk : UInt8) (masks : Masks) :
    List CharRow :=
  let plain := placeChars keymap keycode group masks 0
  let caps := placeChars keymap keycode group masks masks.caps
  if plain.all (· == CharRow.noChar) && caps.all (· == CharRow.noChar) then []
  else if masks.caps ≠ 0 ∧ caps ≠ plain then
    [{ vk, attributes := CharRow.capsRowFollows, chars := plain },
      { vk := VirtualKey.unassigned.toUInt8, attributes := 0, chars := caps }]
  else
    [{ vk, attributes := CharRow.capsShifts, chars := plain }]

/-! ## Tables -/

/-- The tables before any key has been entered. -/
def emptyTables : KeyTables where
  localeFlags := KeyTables.altGrFlag
  modifierBits := [(VirtualKey.shift.toUInt8, 1), (VirtualKey.control.toUInt8, 2),
    (VirtualKey.icoClear.toUInt8, 4)]
  maxModifierBits := 7
  modifierPlaces := #v[0, 1, 2, 3, 4, 5, 6, 7]

/-- Enters the name of a key. -/
def enterName (scan : UInt16) (name : Option String) (t : KeyTables) : KeyTables :=
  match name with
  | none => t
  | some name =>
    let entry : KeyName := ⟨scan.toUInt8, name⟩
    if scan &&& 0x300 = 0 then { t with names := t.names ++ [entry] }
    else { t with namesExtended := t.namesExtended ++ [entry] }

/-- Enters the virtual key of a scan code. -/
def enterVirtualKey (scan vk : UInt16) (t : KeyTables) : KeyTables :=
  if scan &&& 0x100 ≠ 0 then { t with extended0 := t.extended0 ++ [(scan.toUInt8, vk)] }
  else if scan &&& 0x200 ≠ 0 then { t with extended1 := t.extended1 ++ [(scan.toUInt8, vk)] }
  else { t with base := t.base.set scan.toUInt8.toNat vk }

/-- Enters one key. A scan code whose byte is zero cannot stand in a table. -/
def enterKey (keymap : Keymap) (group : UInt32) (scanLayout : ScanLayout) (masks : Masks)
    (t : KeyTables) (keycode : UInt32) : KeyTables :=
  let scan := scanOfKeycode keycode
  if scan.toUInt8 = 0 then t
  else
    let t := enterName scan (keymap.symbolName keycode group) t
    let vk := scanLayout.virtualKey scan
    if vk = 0 then t
    else
      let t := enterVirtualKey scan vk t
      { t with charRows := t.charRows ++ charRows keymap keycode group vk.toUInt8 masks }

/-- The tables of a group. -/
def buildTables (keymap : Keymap) (group : UInt32) (scanLayout : ScanLayout) (masks : Masks) :
    KeyTables :=
  keymap.keycodes.foldl (enterKey keymap group scanLayout masks) emptyTables

/-! ## Building -/

/-- Layout code and variant of a group: as the rules say, or else by the group's
description, or else `us`. -/
def codeAndVariant (rules : Rules) (group : UInt32) (description : String) : String × String :=
  match rules.group? group.toNat with
  | some names => names
  | none => ((codeOfDescription? description).getD "us", "")

/-- Builds the layout of a group after the layouts `earlier`. The second result is
the layout id to be given out next; an id once drawn stays drawn, whether or not
the layout can be built. -/
def build (keymap : Keymap) (rules : Rules) (group : UInt32) (earlier : List Layout)
    (nextId : UInt16) : Except LayoutError Layout × UInt16 :=
  let description := (keymap.groupName group).getD ""
  let (code, variant) := codeAndVariant rules group description
  let name := s!"{code}:{variant}:{rules.options}"
  let lang := LangId.ofLayoutCode code
  -- the index counts earlier layouts of the language, while the id is drawn
  let index := UInt16.ofNat (earlier.countP (·.lang == lang))
  let (layoutId, nextId) := if index = 0 then (0, nextId) else (nextId, nextId + 1)
  let scanLayout := chooseScanLayout lang name description
  let masks := Masks.ofKeymap keymap
  let tables := buildTables keymap group scanLayout masks
  let layout := tables.image.map fun image =>
    { group, name, lang, index, layoutId, scanLayout, masks, tables, image }
  (layout, nextId)

end Layout

/-! ## Sets of layouts -/

/-- The layouts of a connection, and the place of the active one. -/
structure Layouts where
  all : List Layout := []
  activeIndex : Option Nat := none
  deriving Repr, Inhabited

namespace Layouts

def empty : Layouts := {}

/-- The active layout. -/
def active (s : Layouts) : Option Layout :=
  s.activeIndex.bind (s.all[·]?)

/-- Makes the layout of a group active. Without such a layout nothing changes. -/
def activate (s : Layouts) (group : UInt32) : Option Layout × Layouts :=
  match s.all.findIdx? (·.group == group) with
  | some i => (s.all[i]?, { s with activeIndex := some i })
  | none => (none, s)

/-- The first layout whose handle has the same high word. -/
def findByHkl (s : Layouts) (hkl : UInt32) : Option Layout :=
  s.all.find? fun l => l.hkl >>> 16 == hkl >>> 16

/-- The masks of the active layout, or else of the first one. -/
def masks (s : Layouts) : Masks :=
  ((s.active <|> s.all.head?).map (·.masks)).getD {}

/-- Builds the layouts of `groups` one after the other, stopping at the first
that cannot be built. -/
def buildGroups (keymap : Keymap) (rules : Rules) :
    List UInt32 → List Layout → UInt16 → Except LayoutError (List Layout) × UInt16
  | [], built, nextId => (.ok built, nextId)
  | group :: groups, built, nextId =>
    match Layout.build keymap rules group built nextId with
    | (.ok layout, nextId) => buildGroups keymap rules groups (built ++ [layout]) nextId
    | (.error e, nextId) => (.error e, nextId)

/-- The layouts of a keymap, one for each group and none of them active. If one of
them cannot be built there are none at all. -/
def rebuild (keymap : Keymap) (rules : Rules) (nextId : UInt16) :
    Except LayoutError Unit × Layouts × UInt16 :=
  let groups := (List.range keymap.groups.toNat).map UInt32.ofNat
  match buildGroups keymap rules groups [] nextId with
  | (.ok all, nextId) => (.ok (), { all }, nextId)
  | (.error e, nextId) => (.error e, empty, nextId)

end Layouts

end InputBridge
