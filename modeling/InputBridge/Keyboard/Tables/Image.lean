-- SUMMARY: Writing keyboard tables as an image, and reading an image with all its checks.
import InputBridge.Keyboard.Tables
import InputBridge.Text.Utf16

/-!
# The image of keyboard tables

Keyboard tables as one run of bytes, little-endian, in which every reference is
an offset from the start. The image is a header, sections that begin at multiples
of eight, and at the end the key names as zero-ended UTF-16. Lists end with an
entry whose first byte is zero.

Every offset can be planned from the sizes of the sections, which stand one after
the other. Reading trusts nothing: every part is looked for where the image says it
is, and a part that is not inside the image is a fault.
-/

namespace InputBridge

namespace KeyTables

/-! ## Little-endian words -/

/-- The `width` low bytes of a number, the lowest first. -/
def littleEndian : (width : Nat) → Nat → List UInt8
  | 0, _ => []
  | width + 1, n => UInt8.ofNat n :: littleEndian width (n / 256)

/-- The number whose bytes, the lowest first, are `bytes`. -/
def ofLittleEndian (bytes : List UInt8) : Nat :=
  bytes.foldr (fun b n => b.toNat + 256 * n) 0

def word (w : UInt16) : List UInt8 := littleEndian 2 w.toNat

def zeros (count : Nat) : List UInt8 := List.replicate count 0

/-! ## Plan -/

/-- The largest image that readers accept. -/
def maxImageSize : Nat := 32768

def headerSize : Nat := 104
def modifiersSize : Nat := 24
def charTableEntrySize : Nat := 16
def bitsEntrySize : Nat := 2
def charRowSize : Nat := 18
def extendedEntrySize : Nat := 4
def nameEntrySize : Nat := 16

/-- The next multiple of eight. -/
def align (n : Nat) : Nat := (n + 7) / 8 * 8

/-- The bytes filled up with zeros to a multiple of eight. -/
def padded (bytes : List UInt8) : List UInt8 :=
  bytes ++ zeros (align bytes.length - bytes.length)

/-- The size of a list of entries with the entry that ends it. -/
def listSize (entrySize count : Nat) : Nat := entrySize * (count + 1)

/-- Where the sections begin. -/
structure Plan where
  modifiers : Nat
  bits : Nat
  charTable : Nat
  base : Nat
  extended0 : Nat
  extended1 : Nat
  charRows : Nat
  names : Nat
  namesExtended : Nat
  texts : Nat
  deriving DecidableEq, Repr

def plan (t : KeyTables) : Plan :=
  let modifiers := headerSize
  let bits := modifiers + modifiersSize
  let charTable := bits + align (listSize bitsEntrySize t.modifierBits.length)
  let base := charTable + 2 * charTableEntrySize
  let extended0 := base + 2 * baseSize
  let extended1 := extended0 + align (listSize extendedEntrySize t.extended0.length)
  let charRows := extended1 + align (listSize extendedEntrySize t.extended1.length)
  let names := charRows + align (listSize charRowSize t.charRows.length)
  let namesExtended := names + listSize nameEntrySize t.names.length
  let texts := namesExtended + listSize nameEntrySize t.namesExtended.length
  { modifiers, bits, charTable, base, extended0, extended1, charRows, names, namesExtended, texts }

/-- Each name with the offset of its text, the first text at `start`. -/
def withTextOffsets : (start : Nat) → List KeyName → List (KeyName × Nat)
  | _, [] => []
  | start, n :: rest =>
    (n, start) :: withTextOffsets (start + 2 * ((Text.Utf16.encode n.name).length + 1)) rest

/-! ## Sections -/

def offset (n : Nat) : List UInt8 := littleEndian 8 n

def headerBytes (t : KeyTables) (p : Plan) : List UInt8 :=
  offset p.modifiers ++ offset p.charTable ++ offset 0 ++ offset p.names
  ++ offset p.namesExtended ++ offset 0 ++ offset p.base ++ [0xff] ++ zeros 7
  ++ offset p.extended0 ++ offset p.extended1
  ++ littleEndian 4 t.localeFlags.toNat ++ zeros 4 ++ offset 0
  ++ littleEndian 4 4 ++ zeros 4

def modifiersBytes (t : KeyTables) (p : Plan) : List UInt8 :=
  offset p.bits ++ word t.maxModifierBits ++ t.modifierPlaces.toList ++ zeros 6

def bitsBytes (t : KeyTables) : List UInt8 :=
  t.modifierBits.flatMap (fun (vk, bits) => [vk, bits]) ++ zeros bitsEntrySize

def charTableBytes (p : Plan) : List UInt8 :=
  offset p.charRows ++ [8, UInt8.ofNat charRowSize] ++ zeros 6 ++ zeros charTableEntrySize

def baseBytes (t : KeyTables) : List UInt8 :=
  (List.range baseSize).flatMap fun i => word (t.base.getD i 0)

def extendedBytes (entries : List (UInt8 × UInt16)) : List UInt8 :=
  entries.flatMap (fun (scan, vk) => [scan, 0] ++ word vk) ++ zeros extendedEntrySize

def CharRow.bytes (r : CharRow) : List UInt8 :=
  [r.vk, r.attributes] ++ r.chars.toList.flatMap word

def charRowsBytes (t : KeyTables) : List UInt8 :=
  t.charRows.flatMap CharRow.bytes ++ zeros charRowSize

def namesBytes (names : List (KeyName × Nat)) : List UInt8 :=
  names.flatMap (fun (n, text) => [n.scan] ++ zeros 7 ++ offset text) ++ zeros nameEntrySize

def textBytes (n : KeyName) : List UInt8 :=
  (Text.Utf16.encode n.name).flatMap word ++ zeros 2

/-- The image, of whatever size. -/
def imageBytes (t : KeyTables) : List UInt8 :=
  let p := t.plan
  let names := withTextOffsets p.texts (t.names ++ t.namesExtended)
  t.headerBytes p ++ t.modifiersBytes p ++ padded t.bitsBytes ++ charTableBytes p
  ++ t.baseBytes ++ padded (extendedBytes t.extended0) ++ padded (extendedBytes t.extended1)
  ++ padded t.charRowsBytes
  ++ namesBytes (names.take t.names.length) ++ namesBytes (names.drop t.names.length)
  ++ (t.names ++ t.namesExtended).flatMap textBytes

/-! ## Reading -/

/-- Splits off exactly `count` elements. -/
def splitExactly {α : Type} : (count : Nat) → List α → Option (List α × List α)
  | 0, rest => some ([], rest)
  | _ + 1, [] => none
  | count + 1, x :: xs => (splitExactly count xs).map fun (part, rest) => (x :: part, rest)

theorem splitExactly_length {α : Type} {count : Nat} {xs part rest : List α}
    (h : splitExactly count xs = some (part, rest)) : rest.length + count = xs.length := by
  induction count generalizing xs part rest with
  | zero => simp_all [splitExactly]
  | succ count ih =>
    cases xs with
    | nil => simp [splitExactly] at h
    | cons x xs =>
      simp only [splitExactly, Option.map_eq_some_iff] at h
      obtain ⟨⟨p, r⟩, h, he⟩ := h
      obtain ⟨rfl, rfl⟩ : x :: p = part ∧ r = rest := by simpa using he
      have := ih h
      simp only [List.length_cons]
      omega

/-- The `length` bytes at `off`. -/
def slice (image : List UInt8) (off length : Nat) : Except TableFault (List UInt8) :=
  match splitExactly length (image.drop off) with
  | some (part, _) => .ok part
  | none => .error (.outOfBounds off length)

/-- The number in `width` of the bytes, from the place `i` on. -/
def numberAt (bytes : List UInt8) (i width : Nat) : Nat :=
  ofLittleEndian ((bytes.drop i).take width)

def byteAt (bytes : List UInt8) (i : Nat) : UInt8 := bytes.getD i 0

def wordAt (bytes : List UInt8) (i : Nat) : UInt16 := UInt16.ofNat (numberAt bytes i 2)

/-- Reads entries of `size + 1` bytes up to the one whose first byte is zero. The
bytes are what the image holds from `off` on. -/
def readEntries {α : Type} (size : Nat) (entry : List UInt8 → Except TableFault α)
    (off : Nat) (bytes : List UInt8) : Except TableFault (List α) :=
  match h : splitExactly (size + 1) bytes with
  | none => .error (.outOfBounds off (size + 1))
  | some (part, rest) =>
    if byteAt part 0 = 0 then .ok []
    else do
      let first ← entry part
      let others ← readEntries size entry (off + (size + 1)) rest
      return first :: others
termination_by bytes.length
decreasing_by
  have := splitExactly_length h
  omega

/-- Reads UTF-16 units up to the zero unit. -/
def readUnits : (off : Nat) → List UInt8 → Except TableFault (List UInt16)
  | off, low :: high :: rest =>
    let unit := wordAt [low, high] 0
    if unit = 0 then .ok []
    else (readUnits (off + 2) rest).map (unit :: ·)
  | off, _ => .error (.outOfBounds off 2)

/-- The text at `off`. -/
def readText (image : List UInt8) (off : Nat) : Except TableFault String := do
  let units ← readUnits off (image.drop off)
  match Text.Utf16.decode? units with
  | some s => .ok s
  | none => .error .loneSurrogate

def readBits (image : List UInt8) (off : Nat) : Except TableFault (List (UInt8 × UInt8)) :=
  readEntries 1 (fun e => .ok (byteAt e 0, byteAt e 1)) off (image.drop off)

def CharRow.ofBytes (e : List UInt8) : CharRow where
  vk := byteAt e 0
  attributes := byteAt e 1
  chars := Vector.ofFn fun i => wordAt e (2 + 2 * i.val)

def readCharRows (image : List UInt8) (off : Nat) : Except TableFault (List CharRow) :=
  readEntries 17 (fun e => .ok (CharRow.ofBytes e)) off (image.drop off)

def readExtended (image : List UInt8) (off : Nat) : Except TableFault (List (UInt8 × UInt16)) :=
  readEntries 3 (fun e => .ok (byteAt e 0, wordAt e 2)) off (image.drop off)

def readNames (image : List UInt8) (off : Nat) : Except TableFault (List KeyName) :=
  readEntries 15 (fun e => (readText image (numberAt e 8 8)).map (KeyName.mk (byteAt e 0)))
    off (image.drop off)

/-- Reads the parts in the order in which their faults are to be reported. -/
def readParts (image : List UInt8) : Except TableFault KeyTables := do
  let header ← slice image 0 headerSize
  let modifiers ← slice image (numberAt header 0 8) modifiersSize
  let modifierBits ← readBits image (numberAt modifiers 0 8)
  let charTable ← slice image (numberAt header 8 8) charTableEntrySize
  let columns := byteAt charTable 8
  let rowSize := byteAt charTable 9
  -- rows of another shape are not read at all
  if columns ≠ 8 ∨ rowSize.toNat ≠ charRowSize then
    throw (.rowShape columns.toNat rowSize.toNat)
  let charRows ← readCharRows image (numberAt charTable 0 8)
  let base ← slice image (numberAt header 48 8) (2 * baseSize)
  let extended0 ← readExtended image (numberAt header 64 8)
  let extended1 ← readExtended image (numberAt header 72 8)
  let names ← readNames image (numberAt header 24 8)
  let namesExtended ← readNames image (numberAt header 32 8)
  return {
    localeFlags := UInt32.ofNat (numberAt header 80 4)
    modifierBits
    maxModifierBits := wordAt modifiers 8
    modifierPlaces := Vector.ofFn fun i => byteAt modifiers (10 + i.val)
    charRows
    base := (List.range baseSize).map fun i => wordAt base (2 * i)
    extended0, extended1, names, namesExtended }

/-- The tables of an image. -/
def ofImage (image : List UInt8) : Except LayoutError KeyTables :=
  (readParts image).mapError .malformed

end KeyTables

end InputBridge
