-- SUMMARY: The character rows of built tables are those of the keys, with their masks.
import InputBridge.Keyboard.Layout
import InputBridge.Proofs.Keyboard.ScanCodes
import Mathlib.Data.List.Forall2

/-!
# The characters of built tables

The character rows of a layout are those of its keys, one key after the other, and whoever
reads them finds out where the rows of a key end: a row says whether another one belongs to
it, and only such a row has the number that stands for no key. What is read for a key, with
Caps Lock or without it, are the characters that the keymap has for it.
-/

namespace InputBridge

/-- The modifiers held for a place in a character row, apart from Ctrl. -/
def Masks.held (masks : Masks) (place : Fin 8) (capsLock : Bool) : UInt32 :=
  ((if place.val.testBit 0 then masks.shift else 0) |||
      (if place.val.testBit 2 then masks.altgr else 0)) |||
    (if capsLock then masks.caps else 0)

namespace ScanLayout

variable {layout : ScanLayout} {keymap : Keymap} {keycode : UInt32}

/-- Whether a key has a virtual key and can stand in a table. -/
def hasKey (layout : ScanLayout) (keycode : UInt32) : Bool :=
  (scanOfKeycode keycode).toUInt8 ≠ 0 ∧ layout.virtualKey (scanOfKeycode keycode) ≠ 0

theorem hasKey_iff : layout.hasKey keycode = true ↔
    (scanOfKeycode keycode).toUInt8 ≠ 0 ∧ layout.virtualKey (scanOfKeycode keycode) ≠ 0 :=
  decide_eq_true_iff

/-- The keys of a keymap that stand in the tables of a layout. -/
def keysOf (layout : ScanLayout) (keymap : Keymap) : List UInt32 :=
  keymap.keycodes.filter layout.hasKey

theorem mem_keysOf : keycode ∈ layout.keysOf keymap ↔
    (keymap.minKeycode ≤ keycode ∧ keycode ≤ keymap.maxKeycode) ∧
      (scanOfKeycode keycode).toUInt8 ≠ 0 ∧ layout.virtualKey (scanOfKeycode keycode) ≠ 0 := by
  rw [keysOf, List.mem_filter, Keymap.mem_keycodes, hasKey_iff]

theorem pairwise_keysOf (layout : ScanLayout) (keymap : Keymap) :
    (layout.keysOf keymap).Pairwise (· < ·) :=
  keymap.pairwise_keycodes.filter _

end ScanLayout

/-! ## Reading rows -/

namespace CharRow

/-- The number of the rows that belong to the row before them. -/
def noKey : UInt8 := VirtualKey.unassigned.toUInt8

/-- The rows that a key has if it has any. -/
inductive IsBlock : List CharRow → Prop where
  | one {r : CharRow} : r.vk ≠ noKey → r.attributes = capsShifts → IsBlock [r]
  | two {r caps : CharRow} : r.vk ≠ noKey → r.attributes = capsRowFollows →
      caps.vk = noKey → caps.attributes = 0 → IsBlock [r, caps]

/-- Puts rows that belong together into one block. -/
def split : List CharRow → List (List CharRow)
  | [] => []
  | [r] => [[r]]
  | r :: caps :: rest =>
    if r.attributes = capsRowFollows then [r, caps] :: split rest else [r] :: split (caps :: rest)

/-- The character that the rows of a key have in a place. Under Caps Lock the second row
counts, if the first one says that it follows. -/
def read (capsLock : Bool) (place : Fin 8) : List CharRow → UInt16
  | [] => noChar
  | [r] => r.chars[place]
  | r :: caps :: _ =>
    if capsLock ∧ r.attributes = capsRowFollows then caps.chars[place] else r.chars[place]

theorem IsBlock.split_append {block : List CharRow} (h : IsBlock block) (rest : List CharRow) :
    split (block ++ rest) = block :: split rest := by
  cases h with
  | @one r _ hone =>
    cases rest with
    | nil => rfl
    | cons caps rest =>
      have hnot : ¬r.attributes = capsRowFollows := by
        rw [hone]
        decide
      exact if_neg hnot
  | two _ htwo => exact if_pos htwo

/-- There is one way to put rows into blocks. -/
theorem split_flatten {blocks : List (List CharRow)} (h : ∀ block ∈ blocks, IsBlock block) :
    split blocks.flatten = blocks := by
  induction blocks with
  | nil => rfl
  | cons block blocks ih =>
    obtain ⟨hblock, hblocks⟩ := List.forall_mem_cons.mp h
    rw [List.flatten_cons, hblock.split_append, ih hblocks]

end CharRow

namespace Layout

variable {keymap : Keymap} {keycode group : UInt32} {scanLayout : ScanLayout} {masks : Masks}
  {t : KeyTables}

/-! ## The rows of a key -/

/-- The character of a key in a place of a character row. With Ctrl there is none. -/
def keyChar (keymap : Keymap) (keycode group : UInt32) (masks : Masks) (place : Fin 8)
    (capsLock : Bool) : UInt16 :=
  if place.val.testBit 1 then CharRow.noChar
  else rowChar (keymap.character keycode group (masks.held place capsLock))

/-- What the rows of a key are. -/
structure RowsOf (keymap : Keymap) (group : UInt32) (scanLayout : ScanLayout) (masks : Masks)
    (keycode : UInt32) (block : List CharRow) : Prop where
  isBlock : block ≠ [] → CharRow.IsBlock block
  vk : ∀ r ∈ block.head?, r.vk = (scanLayout.virtualKey (scanOfKeycode keycode)).toUInt8
  eq_nil_iff : block = [] ↔ ∀ place : Fin 8, place.val.testBit 1 = false → ∀ capsLock,
    keyChar keymap keycode group masks place capsLock = CharRow.noChar
  read : ∀ place capsLock,
    CharRow.read capsLock place block = keyChar keymap keycode group masks place capsLock

theorem keyChar_of_ctrl {place : Fin 8} (h : place.val.testBit 1 = true) (capsLock : Bool) :
    keyChar keymap keycode group masks place capsLock = CharRow.noChar :=
  if_pos h

theorem getElem_placeChars (place : Fin 8) (capsLock : Bool) :
    (placeChars keymap keycode group masks (if capsLock then masks.caps else 0))[place] =
      keyChar keymap keycode group masks place capsLock := by
  rw [Fin.getElem_fin, placeChars, Vector.getElem_ofFn, keyChar, placeModifiers]
  by_cases h : place.val.testBit 1 <;> simp [h, Masks.held]

theorem silent_iff : (∀ place : Fin 8, place.val.testBit 1 = false → ∀ capsLock,
    keyChar keymap keycode group masks place capsLock = CharRow.noChar) ↔
      ∀ place : Fin 8, ∀ capsLock,
        keyChar keymap keycode group masks place capsLock = CharRow.noChar := by
  refine forall_congr' fun place => ?_
  by_cases hctrl : place.val.testBit 1
  · simp [hctrl, keyChar_of_ctrl]
  · simp [hctrl]

theorem all_placeChars_iff (keymap : Keymap) (keycode group : UInt32) (masks : Masks) :
    ((placeChars keymap keycode group masks 0).all (· == CharRow.noChar) &&
        (placeChars keymap keycode group masks masks.caps).all (· == CharRow.noChar)) = true ↔
      ∀ place : Fin 8, ∀ capsLock,
        keyChar keymap keycode group masks place capsLock = CharRow.noChar := by
  simp only [Bool.and_eq_true, Vector.all_eq_true, beq_iff_eq]
  constructor
  · rintro ⟨hplain, hcaps⟩ place capsLock
    -- a place without Caps Lock is in the first row, and one with it in the second
    cases capsLock with
    | false => exact (getElem_placeChars place false).symm.trans (hplain place.val place.isLt)
    | true => exact (getElem_placeChars place true).symm.trans (hcaps place.val place.isLt)
  · intro h
    exact ⟨fun i hi => (getElem_placeChars ⟨i, hi⟩ false).trans (h ⟨i, hi⟩ false),
      fun i hi => (getElem_placeChars ⟨i, hi⟩ true).trans (h ⟨i, hi⟩ true)⟩

/-- The rows of a key that stands in the tables. -/
def keyRows (keymap : Keymap) (group : UInt32) (scanLayout : ScanLayout) (masks : Masks)
    (keycode : UInt32) : List CharRow :=
  charRows keymap keycode group (scanLayout.virtualKey (scanOfKeycode keycode)).toUInt8 masks

theorem rowsOf_keyRows (h : scanLayout.hasKey keycode = true) :
    RowsOf keymap group scanLayout masks keycode
      (keyRows keymap group scanLayout masks keycode) := by
  have hkey := scanLayout.toUInt8_virtualKey_ne_unassigned (ScanLayout.hasKey_iff.mp h).1
  have silent := all_placeChars_iff keymap keycode group masks
  rw [← silent_iff] at silent
  unfold keyRows charRows
  dsimp only
  split
  · next hall =>
    -- a key without characters has no rows
    have hnone := silent.mp hall
    exact ⟨fun h => absurd rfl h, nofun, iff_of_true rfl hnone,
      fun place capsLock => (silent_iff.mp hnone place capsLock).symm⟩
  split
  -- Caps Lock makes a difference of its own, so there are two rows
  · next hall htwo =>
    refine ⟨fun _ => .two hkey rfl rfl rfl, ?_, ?_, ?_⟩
    · simp
    · exact iff_of_false (List.cons_ne_nil _ _) (mt silent.mpr hall)
    · intro place capsLock
      cases capsLock with
      | false => exact getElem_placeChars place false
      | true => exact getElem_placeChars place true
  · next hall hone =>
    -- Caps Lock changes nothing
    have hsame : placeChars keymap keycode group masks masks.caps =
        placeChars keymap keycode group masks 0 := by
      by_cases hzero : masks.caps = 0
      · rw [hzero]
      · exact Classical.not_not.mp fun hne => hone ⟨hzero, hne⟩
    refine ⟨fun _ => .one hkey rfl, ?_, ?_, ?_⟩
    · simp
    · exact iff_of_false (List.cons_ne_nil _ _) (mt silent.mpr hall)
    · intro place capsLock
      cases capsLock with
      | false => exact getElem_placeChars place false
      | true =>
        rw [← getElem_placeChars place true, if_pos rfl, hsame]
        rfl

/-! ## All rows -/

theorem charRows_enterName (scan : UInt16) (name : Option String) (t : KeyTables) :
    (enterName scan name t).charRows = t.charRows := by
  unfold enterName
  cases name with
  | none => rfl
  | some name =>
    dsimp only
    split <;> rfl

theorem charRows_enterVirtualKey (scan vk : UInt16) (t : KeyTables) :
    (enterVirtualKey scan vk t).charRows = t.charRows := by
  unfold enterVirtualKey
  split
  · rfl
  split <;> rfl

/-- A key that has rows adds them. -/
theorem charRows_enterKey (keycode : UInt32) :
    (enterKey keymap group scanLayout masks t keycode).charRows = t.charRows ++
      if scanLayout.hasKey keycode then keyRows keymap group scanLayout masks keycode else [] := by
  unfold enterKey ScanLayout.hasKey keyRows
  dsimp only
  split
  · next hscan => simp [hscan]
  · next hscan =>
    split
    · next hvk => simp [hvk, charRows_enterName]
    · next hvk => simp [hscan, hvk, charRows_enterVirtualKey, charRows_enterName]

theorem charRows_foldl_enterKey (keycodes : List UInt32) (t : KeyTables) :
    (keycodes.foldl (enterKey keymap group scanLayout masks) t).charRows = t.charRows ++
      ((keycodes.filter scanLayout.hasKey).map
        (keyRows keymap group scanLayout masks)).flatten := by
  induction keycodes generalizing t with
  | nil => simp
  | cons keycode keycodes ih =>
    rw [List.foldl_cons, ih, charRows_enterKey, List.filter_cons]
    split <;> simp

/-- The character rows are the rows of the keys in the order of their keycodes, and they are
put into blocks in one way, which gives the rows of each key that has some. -/
theorem charRows_buildTables (keymap : Keymap) (group : UInt32) (scanLayout : ScanLayout)
    (masks : Masks) :
    let rows := (buildTables keymap group scanLayout masks).charRows
    let keys := scanLayout.keysOf keymap
    (keys.Pairwise (· < ·) ∧ ∀ keycode, keycode ∈ keys ↔
      (keymap.minKeycode ≤ keycode ∧ keycode ≤ keymap.maxKeycode) ∧
        (scanOfKeycode keycode).toUInt8 ≠ 0 ∧
          scanLayout.virtualKey (scanOfKeycode keycode) ≠ 0) ∧
    ∃ blocks : List (List CharRow),
      List.Forall₂ (RowsOf keymap group scanLayout masks) keys blocks ∧
      rows = blocks.flatten ∧ CharRow.split rows = blocks.filter (· ≠ []) ∧
      ∀ others : List (List CharRow), (∀ block ∈ others, CharRow.IsBlock block) →
        others.flatten = rows → others = blocks.filter (· ≠ []) := by
  dsimp only
  refine ⟨⟨scanLayout.pairwise_keysOf keymap, fun _ => ScanLayout.mem_keysOf⟩, ?_⟩
  let blocks := (scanLayout.keysOf keymap).map (keyRows keymap group scanLayout masks)
  have rowsOf : ∀ keycode ∈ scanLayout.keysOf keymap, RowsOf keymap group scanLayout masks
      keycode (keyRows keymap group scanLayout masks keycode) :=
    fun keycode h => rowsOf_keyRows (List.mem_filter.mp h).2
  have hrows : (buildTables keymap group scanLayout masks).charRows = blocks.flatten :=
    charRows_foldl_enterKey keymap.keycodes emptyTables
  -- only the keys with characters have a block that is not empty
  have hfull : ∀ block ∈ blocks.filter (· ≠ []), CharRow.IsBlock block := by
    intro block hblock
    obtain ⟨hmem, hne⟩ := List.mem_filter.mp hblock
    obtain ⟨keycode, hkeycode, rfl⟩ := List.mem_map.mp hmem
    exact (rowsOf keycode hkeycode).isBlock (of_decide_eq_true hne)
  -- blocks end where their rows say so, so the list can be cut in one way only
  have hsplit : CharRow.split blocks.flatten = blocks.filter (· ≠ []) := by
    rw [← List.flatten_filter_ne_nil]
    exact CharRow.split_flatten hfull
  refine ⟨blocks, ?_, hrows, by rw [hrows, hsplit], ?_⟩
  · rw [List.forall₂_map_right_iff, List.forall₂_same]
    exact rowsOf
  · intro others hothers heq
    rw [← CharRow.split_flatten hothers, heq, hrows, hsplit]

end Layout

end InputBridge
