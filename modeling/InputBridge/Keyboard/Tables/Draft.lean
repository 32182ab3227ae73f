-- SUMMARY: Drafts of images, with gaps for the places of parts that come later.
import InputBridge.Keyboard.Tables.Image

/-!
# Writing an image

An image is written front to back. Where it refers to a part, which may come later,
it is left a gap, and the draft keeps in mind which part is meant. When a part
begins, the draft keeps in mind where. In the end each gap is filled with the place
of its part.
-/

namespace InputBridge

namespace KeyTables

/-- An image that is being written. -/
structure Draft where
  bytes : List UInt8 := []
  /-- Where the gaps are, and what they refer to. -/
  gaps : List (Nat × TablePart) := []
  /-- The parts that have begun, and where. -/
  parts : List (TablePart × Nat) := []

namespace Draft

def put (d : Draft) (bytes : List UInt8) : Draft := { d with bytes := d.bytes ++ bytes }

/-- Leaves a gap for the place of a part. -/
def refer (d : Draft) (part : TablePart) : Draft :=
  { d with bytes := d.bytes ++ offset 0, gaps := d.gaps ++ [(d.bytes.length, part)] }

def align (d : Draft) : Draft := { d with bytes := padded d.bytes }

/-- A part begins here. -/
def note (d : Draft) (part : TablePart) : Draft :=
  { d with parts := d.parts ++ [(part, d.bytes.length)] }

/-- A part begins at the next multiple of eight. -/
def start (d : Draft) (part : TablePart) : Draft := d.align.note part

/-! ## Parts -/

def header (d : Draft) (t : KeyTables) : Draft :=
  -- the empty offsets stand for tables of dead keys and ligatures, which no layout has
  d.refer .modifiers |>.refer .charTable |>.put (offset 0) |>.refer .names
    |>.refer .namesExtended |>.put (offset 0) |>.refer .base |>.put [0xff] |>.put (zeros 7)
    |>.refer .extended0 |>.refer .extended1
    |>.put (littleEndian 4 t.localeFlags.toNat) |>.put (zeros 4) |>.put (offset 0)
    |>.put (littleEndian 4 4) |>.put (zeros 4)

def modifiers (d : Draft) (t : KeyTables) : Draft :=
  d.start .modifiers |>.refer .bits |>.put (word t.maxModifierBits)
    |>.put t.modifierPlaces.toList |>.put (zeros 6)

def charTable (d : Draft) : Draft :=
  d.start .charTable |>.refer .charRows |>.put [8, UInt8.ofNat charRowSize] |>.put (zeros 6)
    |>.put (zeros charTableEntrySize)

/-- A part that refers to nothing. -/
def plain (d : Draft) (part : TablePart) (bytes : List UInt8) : Draft := d.start part |>.put bytes

/-- The entries of names, the first of which has the text `first`. -/
def nameEntries (d : Draft) : (first : Nat) → List KeyName → Draft
  | _, [] => d
  | first, n :: rest =>
    (d.put ([n.scan] ++ zeros 7) |>.refer (.text first)).nameEntries (first + 1) rest

def names (d : Draft) (part : TablePart) (first : Nat) (names : List KeyName) : Draft :=
  (d.start part).nameEntries first names |>.put (zeros nameEntrySize)

/-- The texts of names, from the text `first` on. -/
def texts (d : Draft) : (first : Nat) → List KeyName → Draft
  | _, [] => d
  | first, n :: rest => (d.note (.text first) |>.put (textBytes n)).texts (first + 1) rest

/-! ## Filling -/

/-- Writes over what stands at a place. -/
def overwrite (bytes : List UInt8) (place : Nat) (part : List UInt8) : List UInt8 :=
  bytes.take place ++ part ++ bytes.drop (place + part.length)

/-- The image with its gaps filled. -/
def filled (d : Draft) : Except TableFault (List UInt8) :=
  d.gaps.foldlM (fun bytes (place, part) =>
    match d.parts.find? (·.1 == part) with
    | some (_, off) => .ok (overwrite bytes place (offset off))
    | none => .error (.unresolved part)) d.bytes

end Draft

/-- The image before its gaps are filled. -/
def draft (t : KeyTables) : Draft :=
  ({} : Draft).header t |>.modifiers t |>.plain .bits t.bitsBytes |>.charTable
    |>.plain .base t.baseBytes |>.plain .extended0 (extendedBytes t.extended0)
    |>.plain .extended1 (extendedBytes t.extended1) |>.plain .charRows t.charRowsBytes
    |>.names .names 0 t.names |>.names .namesExtended t.names.length t.namesExtended
    |>.align |>.texts 0 (t.names ++ t.namesExtended)

/-- The image, if readers accept its size. -/
def image (t : KeyTables) : Except LayoutError (List UInt8) := do
  let bytes ← t.draft.filled.mapError .malformed
  if maxImageSize < bytes.length then throw (.tooLarge bytes.length)
  return bytes

end KeyTables

end InputBridge
