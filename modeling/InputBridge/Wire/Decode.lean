-- SUMMARY: Reading messages from values, with the faults of those that are none.
import InputBridge.Wire.Encode

/-!
# Messages from values

Messages are read leniently: the entries of a map may stand in any order and
unknown ones are ignored, and an array holds the fields in their order. A field
may also be named by its number. A field may not occur twice.

A payload that is no message is still taken note of if it has a type and an id.
-/

namespace InputBridge

open Wire

namespace Wire

namespace Value

/-! ## Simple values -/

def toInt? : Value → Option Int
  | .unsigned _ n => some n
  | .signed n => some n
  | _ => none

/-- A number from 0 to `max`. -/
def toNatUpTo? (max : Nat) (v : Value) : Option Nat :=
  v.toInt?.bind fun n => if 0 ≤ n ∧ n ≤ max then some n.toNat else none

def toUInt8? (v : Value) : Option UInt8 := (v.toNatUpTo? 0xff).map UInt8.ofNat
def toUInt16? (v : Value) : Option UInt16 := (v.toNatUpTo? 0xffff).map UInt16.ofNat
def toUInt32? (v : Value) : Option UInt32 := (v.toNatUpTo? 0xffffffff).map UInt32.ofNat
def toUInt64? (v : Value) : Option UInt64 := (v.toNatUpTo? 0xffffffffffffffff).map UInt64.ofNat

def toInt32? (v : Value) : Option Int32 :=
  v.toInt?.bind fun n => if -2147483648 ≤ n ∧ n ≤ 2147483647 then some (Int32.ofInt n) else none

def toBool? : Value → Option Bool
  | .bool b => some b
  | _ => none

/-- Text, which may be given as its bytes. -/
def toText? : Value → Option String
  | .text s => some s
  | .bytes b => Text.Utf8.decode? b
  | _ => none

/-- Bytes, which may be given as text or one by one. -/
def toBytes? : Value → Option (List UInt8)
  | .bytes b => some b
  | .text s => some (Text.Utf8.encode s)
  | .array items => items.mapM toUInt8?
  | _ => none

/-- Whether the value is `name`, as text or as bytes. -/
def isName (name : String) : Value → Bool
  | .text s => s == name
  | .bytes b => b == Text.Utf8.encode name
  | _ => false

/-! ## Names and numbers of fields and variants -/

/-- The unsigned widths that may hold a number in place of a name: inside a
message one or eight bytes, otherwise any. -/
def holdsNumber (anyWidth : Bool) (width : Nat) : Bool := anyWidth || width == 1 || width == 8

/-- Which of the names a key stands for: `some none` for another name, `none` if
it is no key at all. -/
def keyIndex? (anyWidth : Bool) (names : List String) : Value → Option (Option Nat)
  | .unsigned width n =>
    if holdsNumber anyWidth width then some (if n < names.length then some n else none) else none
  | v@(.text _) | v@(.bytes _) => some (names.findIdx? (isName · v))
  | _ => none

/-- Which of the names a value stands for. -/
def variantIndex? (anyWidth : Bool) (names : List String) (v : Value) : Option Nat :=
  (keyIndex? anyWidth names v).join

/-- One of the names: text, or a map of the name to nothing. -/
def toVariant? (names : List String) : Value → Option Nat
  | .text s => names.findIdx? (· == s)
  | .map [(k, .nil)] | .map [(k, .map [])] => variantIndex? false names k
  | _ => none

/-! ## Structures -/

/-- The values of the fields, by number; absent ones are `none`. -/
abbrev Slots := List (Option Value)

/-- Puts the values of map entries into their slots. -/
def fillSlots (anyWidth : Bool) (names : List String) :
    List (Value × Value) → Slots → Option Slots
  | [], slots => some slots
  | (k, v) :: rest, slots => do
    match ← keyIndex? anyWidth names k with
    -- an entry that nobody asks for is passed over
    | none => fillSlots anyWidth names rest slots
    | some i =>
      -- a field must not come twice
      if (slots.getD i none).isSome then none
      else fillSlots anyWidth names rest (slots.set i (some v))

def slotsOfMap (anyWidth : Bool) (names : List String) (entries : List (Value × Value)) :
    Option Slots :=
  fillSlots anyWidth names entries (List.replicate names.length none)

/-- The slots of an array that holds at least `least` of the fields. -/
def slotsOfArray (names : List String) (least : Nat) (items : List Value) : Option Slots :=
  if least ≤ items.length ∧ items.length ≤ names.length then
    some (items.map some ++ List.replicate (names.length - items.length) none)
  else none

/-- The slots of a structure. An array must have its first `least` fields. -/
def slots? (names : List String) (least : Nat) : Value → Option Slots
  | .map entries => slotsOfMap false names entries
  | .array items => slotsOfArray names least items
  | _ => none

/-- A field that must be there. -/
def need {α : Type} (slots : Slots) (i : Nat) (convert : Value → Option α) : Option α :=
  (slots.getD i none).bind convert

/-- A field that may be absent or nil. The outer `none` is a wrong value. -/
def may {α : Type} (slots : Slots) (i : Nat) (convert : Value → Option α) : Option (Option α) :=
  match slots.getD i none with
  | none | some .nil => some none
  | some v => (convert v).map some

/-! ## Tagged structures -/

/-- The value of the tag and everything else, if a map has the tag once. -/
def splitTag (tag : String) (entries : List (Value × Value)) :
    Option (Value × List (Value × Value)) :=
  match entries.partition (fun e => isName tag e.1) with
  | ([(_, v)], rest) => some (v, rest)
  | _ => none

/-- The variant that a tagged value is, and the value of its fields. An array has
the tag in front. -/
def untag? (anyWidth : Bool) (tag : String) (variants : List String) :
    Value → Option (Nat × Value)
  | .map entries => do
    let (v, rest) ← splitTag tag entries
    return (← variantIndex? anyWidth variants v, .map rest)
  | .array (v :: items) => do return (← variantIndex? anyWidth variants v, .array items)
  | _ => none

end Value

end Wire

open Wire.Value

/-! ## The parts of messages -/

def Role.ofValue? (v : Value) : Option Role :=
  let all : List Role := [.desktop, .client]
  (toVariant? (all.map Role.name) v).bind (all[·]?)

def Status.ofValue? (v : Value) : Option Status :=
  let all : List Status := [.ok, .error, .notSupported, .invalidParameter, .notFound]
  (toVariant? (all.map Status.name) v).bind (all[·]?)

def Rect.ofValue? (v : Value) : Option Rect := do
  let s ← slots? ["left", "top", "right", "bottom"] 4 v
  return ⟨← need s 0 toInt32?, ← need s 1 toInt32?, ← need s 2 toInt32?, ← need s 3 toInt32?⟩

def Masks.ofValue? (v : Value) : Option Masks := do
  let s ← slots? ["shift", "ctrl", "alt", "altgr", "caps", "num"] 6 v
  return ⟨← need s 0 toUInt32?, ← need s 1 toUInt32?, ← need s 2 toUInt32?,
    ← need s 3 toUInt32?, ← need s 4 toUInt32?, ← need s 5 toUInt32?⟩

def LayoutEntry.ofValue? (v : Value) : Option LayoutEntry := do
  let s ← slots? ["hkl", "lang", "index", "layout_id", "group", "name", "active"] 7 v
  return ⟨← need s 0 toUInt32?, ← need s 1 toUInt16?, ← need s 2 toUInt16?,
    ← need s 3 toUInt16?, ← need s 4 toUInt32?, ← need s 5 toText?, ← need s 6 toBool?⟩

def LayoutEntry.listOfValue? : Value → Option (List LayoutEntry)
  | .array items => items.mapM LayoutEntry.ofValue?
  | _ => none

def Input.kinds : List String := ["mouse", "keyboard", "touch"]

def Input.ofValue? (v : Value) : Option Input := do
  let (kind, v) ← untag? false "kind" Input.kinds v
  match kind with
  | 0 =>
    let s ← slots? ["dx", "dy", "data", "flags", "time"] 5 v
    return .mouse (← need s 0 toInt32?) (← need s 1 toInt32?) (← need s 2 toInt32?)
      (← need s 3 toUInt32?) (← need s 4 toUInt32?)
  | 1 =>
    let s ← slots? ["vk", "scan", "flags", "time"] 4 v
    return .key (← need s 0 toUInt16?) (← need s 1 toUInt16?) (← need s 2 toUInt32?)
      (← need s 3 toUInt32?)
  | _ =>
    let s ← slots? ["x", "y", "id", "flags", "time"] 5 v
    return .touch (← need s 0 toInt32?) (← need s 1 toInt32?) (← need s 2 toUInt32?)
      (← need s 3 toUInt32?) (← need s 4 toUInt32?)

def Response.fieldNames : List String :=
  ["id", "status", "error", "root", "screen_width", "screen_height", "tables", "group_mask",
    "masks", "layouts"]

def Response.ofValue? (v : Value) : Option Response := do
  let s ← slots? Response.fieldNames 2 v
  return {
    id := ← need s 0 toUInt32?
    status := ← need s 1 Status.ofValue?
    error := ← may s 2 toText?
    root := ← may s 3 toUInt32?
    screenWidth := ← may s 4 toUInt16?
    screenHeight := ← may s 5 toUInt16?
    tables := ← may s 6 toBytes?
    groupMask := ← may s 7 toUInt32?
    masks := ← may s 8 Masks.ofValue?
    layouts := ← may s 9 LayoutEntry.listOfValue? }

/-! ## Messages -/

namespace Message

/-- The names of the types, in order. -/
def typeNames : List String :=
  ["hello", "hello_ack", "connect", "start_input", "stop_input", "get_keyboard_tables",
    "list_layouts", "clip_cursor", "set_cursor_pos", "input", "input_lang_change", "lock_state",
    "response"]

/-- A message of the type with the given number. -/
def ofFields? (type : Nat) (v : Value) : Option Message :=
  match type with
  | 0 => do
    let s ← slots? ["id", "version", "role"] 3 v
    return .hello (← need s 0 toUInt32?) (← need s 1 toUInt32?) (← need s 2 Role.ofValue?)
  | 1 => do
    let s ← slots? ["id", "status", "error"] 3 v
    return .helloAck (← need s 0 toUInt32?) (← need s 1 Status.ofValue?) (← may s 2 toText?)
  | 2 => do
    let s ← slots? ["id", "display"] 2 v
    return .connect (← need s 0 toUInt32?) (← need s 1 toText?)
  | 3 => do
    let s ← slots? ["id", "x11_window", "handle"] 3 v
    return .startInput (← need s 0 toUInt32?) (← need s 1 toUInt32?) (← need s 2 toUInt64?)
  | 4 => do
    let s ← slots? ["id", "x11_window"] 2 v
    return .stopInput (← need s 0 toUInt32?) (← need s 1 toUInt32?)
  | 5 => do
    let s ← slots? ["id", "layout"] 2 v
    return .getTables (← need s 0 toUInt32?) (← need s 1 toUInt32?)
  | 6 => do
    let s ← slots? ["id"] 1 v
    return .listLayouts (← need s 0 toUInt32?)
  | 7 => do
    let s ← slots? ["id", "rect"] 1 v
    return .clipCursor (← need s 0 toUInt32?) (← may s 1 Rect.ofValue?)
  | 8 => do
    let s ← slots? ["id", "x", "y"] 3 v
    return .setCursorPos (← need s 0 toUInt32?) (← need s 1 toInt32?) (← need s 2 toInt32?)
  | 9 => do
    let s ← slots? ["id", "window", "input"] 3 v
    return .input (← need s 0 toUInt32?) (← may s 1 toUInt64?) (← need s 2 Input.ofValue?)
  | 10 => do
    let s ← slots? ["id", "window", "hkl"] 3 v
    return .languageChange (← need s 0 toUInt32?) (← need s 1 toUInt64?) (← need s 2 toUInt32?)
  | 11 => do
    let s ← slots? ["id", "caps", "num"] 3 v
    return .lockState (← need s 0 toUInt32?) ⟨← need s 1 toBool?, ← need s 2 toBool?⟩
  | _ => (Response.ofValue? v).map .response

def ofValue? (v : Value) : Option Message := do
  let (type, v) ← untag? true "type" typeNames v
  ofFields? type v

/-- The message that a payload holds. -/
def decode? (payload : List UInt8) : Option Message :=
  (Value.decode? payload).bind ofValue?

end Message

/-! ## Payloads -/

/-- What is known of a payload of an unknown type. -/
structure Envelope where
  type : String
  id : UInt32
  deriving DecidableEq, Repr, Inhabited

namespace Envelope

def fieldNames : List String := ["type", "id"]

def ofValue? (v : Value) : Option Envelope := do
  let s ← match v with
    | .map entries => slotsOfMap true fieldNames entries
    | .array items => slotsOfArray fieldNames 2 items
    | _ => none
  return ⟨← need s 0 toText?, ← need s 1 toUInt32?⟩

end Envelope

/-- What a payload turns out to be. -/
inductive Payload where
  | message (m : Message)
  | unknown (e : Envelope)
  | malformed
  deriving DecidableEq, Repr, Inhabited

/-- Reads a payload: as a message, or else as an envelope. -/
def Payload.decode (payload : List UInt8) : Payload :=
  match Value.decode? payload with
  | none => .malformed
  | some v =>
    match Message.ofValue? v with
    | some m => .message m
    | none =>
      -- also a message of a known type whose fields are wrong
      match Envelope.ofValue? v with
      | some e => .unknown e
      | none => .malformed

end InputBridge
