-- SUMMARY: The values of MessagePack, writing them and reading all their spellings.
import InputBridge.Text.Utf8

/-!
# MessagePack values

The values of MessagePack and their bytes. Writing takes the shortest form of
every number and length. Reading takes any form, keeps the width of an unsigned
number, and takes text that is not UTF-8 for bytes. Values may be nested up to a
fixed depth.
-/

namespace InputBridge

namespace Wire

inductive Value where
  | nil
  | bool (b : Bool)
  /-- An unsigned number, and in how many bytes it was written. -/
  | unsigned (width n : Nat)
  | signed (n : Int)
  | float32 (bits : Nat)
  | float64 (bits : Nat)
  | text (s : String)
  | bytes (b : List UInt8)
  | array (items : List Value)
  | map (entries : List (Value × Value))
  | extension (type : Nat) (data : List UInt8)
  deriving Repr, Inhabited

/-! ## Big-endian numbers -/

/-- The `width` low bytes of a number, the highest first. -/
def bigEndian : (width : Nat) → Nat → List UInt8
  | 0, _ => []
  | width + 1, n => bigEndian width (n / 256) ++ [UInt8.ofNat n]

/-- The number whose bytes, the highest first, are `bytes`. -/
def ofBigEndian (bytes : List UInt8) : Nat :=
  bytes.foldl (fun n b => n * 256 + b.toNat) 0

/-- The number in two's complement of `width` bytes whose bits are those of `n`. -/
def toSigned (width n : Nat) : Int :=
  if n < 1 <<< (8 * width - 1) then n else (n : Int) - (1 <<< (8 * width) : Nat)

namespace Value

/-! ## Numbers -/

/-- The bytes that an unsigned number takes. -/
def widthOf (n : Nat) : Nat :=
  if n < 0x100 then 1 else if n < 0x10000 then 2 else if n < 0x100000000 then 4 else 8

def ofNat (n : Nat) : Value := .unsigned (widthOf n) n

/-- A number that is not negative is an unsigned one. -/
def ofInt (n : Int) : Value := if 0 ≤ n then ofNat n.toNat else .signed n

/-! ## Writing -/

def encodeNat (n : Nat) : List UInt8 :=
  if n < 128 then [UInt8.ofNat n]
  else if n < 0x100 then 0xcc :: bigEndian 1 n
  else if n < 0x10000 then 0xcd :: bigEndian 2 n
  else if n < 0x100000000 then 0xce :: bigEndian 4 n
  else 0xcf :: bigEndian 8 n

def encodeInt (n : Int) : List UInt8 :=
  if 0 ≤ n then encodeNat n.toNat
  else if -32 ≤ n then [UInt8.ofNat (256 + n).toNat]
  else if -0x80 ≤ n then 0xd0 :: bigEndian 1 (0x100 + n).toNat
  else if -0x8000 ≤ n then 0xd1 :: bigEndian 2 (0x10000 + n).toNat
  else if -0x80000000 ≤ n then 0xd2 :: bigEndian 4 (0x100000000 + n).toNat
  else 0xd3 :: bigEndian 8 (0x10000000000000000 + n).toNat

/-- The head of a text of `n` bytes. -/
def textHead (n : Nat) : List UInt8 :=
  if n < 32 then [UInt8.ofNat (0xa0 + n)]
  else if n < 0x100 then 0xd9 :: bigEndian 1 n
  else if n < 0x10000 then 0xda :: bigEndian 2 n
  else 0xdb :: bigEndian 4 n

def bytesHead (n : Nat) : List UInt8 :=
  if n < 0x100 then 0xc4 :: bigEndian 1 n
  else if n < 0x10000 then 0xc5 :: bigEndian 2 n
  else 0xc6 :: bigEndian 4 n

def arrayHead (n : Nat) : List UInt8 :=
  if n < 16 then [UInt8.ofNat (0x90 + n)]
  else if n < 0x10000 then 0xdc :: bigEndian 2 n
  else 0xdd :: bigEndian 4 n

def mapHead (n : Nat) : List UInt8 :=
  if n < 16 then [UInt8.ofNat (0x80 + n)]
  else if n < 0x10000 then 0xde :: bigEndian 2 n
  else 0xdf :: bigEndian 4 n

def extensionHead (type n : Nat) : List UInt8 :=
  (if n < 0x100 then 0xc7 :: bigEndian 1 n
  else if n < 0x10000 then 0xc8 :: bigEndian 2 n
  else 0xc9 :: bigEndian 4 n) ++ bigEndian 1 type

mutual

/-- The bytes of a value in the shortest form. -/
def encode : Value → List UInt8
  | .nil => [0xc0]
  | .bool b => [if b then 0xc3 else 0xc2]
  | .unsigned _ n => encodeNat n
  | .signed n => encodeInt n
  | .float32 bits => 0xca :: bigEndian 4 bits
  | .float64 bits => 0xcb :: bigEndian 8 bits
  | .text s =>
    let b := Text.Utf8.encode s
    textHead b.length ++ b
  | .bytes b => bytesHead b.length ++ b
  | .array items => arrayHead items.length ++ encodeItems items
  | .map entries => mapHead entries.length ++ encodeEntries entries
  | .extension type data => extensionHead type data.length ++ data

def encodeItems : List Value → List UInt8
  | [] => []
  | v :: rest => v.encode ++ encodeItems rest

def encodeEntries : List (Value × Value) → List UInt8
  | [] => []
  | (k, v) :: rest => k.encode ++ (v.encode ++ encodeEntries rest)

end

/-! ## Reading -/

/-- Reads something off the front of bytes. -/
abbrev Reader (α : Type) := List UInt8 → Option (α × List UInt8)

/-- Reads `count` bytes. -/
def readBytes : (count : Nat) → Reader (List UInt8)
  | 0, rest => some ([], rest)
  | _ + 1, [] => none
  | count + 1, b :: input => (readBytes count input).map fun (part, rest) => (b :: part, rest)

def readNumber (width : Nat) : Reader Nat := fun input =>
  (readBytes width input).map fun (part, rest) => (ofBigEndian part, rest)

/-- Reads `count` things one after the other. -/
def readMany {α : Type} (read : Reader α) : (count : Nat) → Reader (List α)
  | 0, input => some ([], input)
  | count + 1, input => do
    let (x, input) ← read input
    let (xs, input) ← readMany read count input
    return (x :: xs, input)

/-- Reads two things as a pair. -/
def readPair {α : Type} (read : Reader α) : Reader (α × α) := fun input => do
  let (k, input) ← read input
  let (v, input) ← read input
  return ((k, v), input)

/-- Text, or bytes where it is not UTF-8. -/
def ofTextBytes (b : List UInt8) : Value :=
  match Text.Utf8.decode? b with
  | some s => .text s
  | none => .bytes b

/-- What a leading byte announces: a value complete in it, or something to be read
after a number of bytes that hold a number or a length. -/
inductive Lead where
  | done (v : Value)
  | unsigned (width : Nat)
  | signed (width : Nat)
  | float32
  | float64
  | text (length : Nat)
  | textOf (width : Nat)
  | bytesOf (width : Nat)
  | array (length : Nat)
  | arrayOf (width : Nat)
  | map (length : Nat)
  | mapOf (width : Nat)
  | extension (length : Nat)
  | extensionOf (width : Nat)
  | reserved

def leadOf (b : UInt8) : Lead :=
  let n := b.toNat
  if n < 0x80 then .done (.unsigned 1 n)
  else if n < 0x90 then .map (n - 0x80)
  else if n < 0xa0 then .array (n - 0x90)
  else if n < 0xc0 then .text (n - 0xa0)
  else if 0xe0 ≤ n then .done (.signed ((n : Int) - 256))
  else match n with
    | 0xc0 => .done .nil
    | 0xc2 => .done (.bool false)
    | 0xc3 => .done (.bool true)
    | 0xc4 => .bytesOf 1
    | 0xc5 => .bytesOf 2
    | 0xc6 => .bytesOf 4
    | 0xc7 => .extensionOf 1
    | 0xc8 => .extensionOf 2
    | 0xc9 => .extensionOf 4
    | 0xca => .float32
    | 0xcb => .float64
    | 0xcc => .unsigned 1
    | 0xcd => .unsigned 2
    | 0xce => .unsigned 4
    | 0xcf => .unsigned 8
    | 0xd0 => .signed 1
    | 0xd1 => .signed 2
    | 0xd2 => .signed 4
    | 0xd3 => .signed 8
    | 0xd4 => .extension 1
    | 0xd5 => .extension 2
    | 0xd6 => .extension 4
    | 0xd7 => .extension 8
    | 0xd8 => .extension 16
    | 0xd9 => .textOf 1
    | 0xda => .textOf 2
    | 0xdb => .textOf 4
    | 0xdc => .arrayOf 2
    | 0xdd => .arrayOf 4
    | 0xde => .mapOf 2
    | 0xdf => .mapOf 4
    | _ => .reserved

/-- How deeply values may be nested. -/
def maxDepth : Nat := 1023

/-- Reads the type and the data of an extension. -/
def readExtension (length : Nat) : Reader Value := fun input => do
  let (type, input) ← readNumber 1 input
  let (data, input) ← readBytes length input
  return (.extension type data, input)

/-- Reads a value in which values are nested up to `depth` deep. -/
def read : (depth : Nat) → Reader Value
  | _, [] => none
  | 0, b :: input => readScalar (leadOf b) input
  | depth + 1, b :: input =>
    match leadOf b with
    | .array length => readArray (read depth) length input
    | .arrayOf width => do
      let (length, input) ← readNumber width input
      readArray (read depth) length input
    | .map length => readMap (read depth) length input
    | .mapOf width => do
      let (length, input) ← readNumber width input
      readMap (read depth) length input
    | .extension length => readExtension length input
    | .extensionOf width => do
      let (length, input) ← readNumber width input
      readExtension length input
    | lead => readScalar lead input
where
  /-- Reads a value in which no other is nested. -/
  readScalar : Lead → Reader Value
    | .done v, input => some (v, input)
    | .unsigned width, input =>
      (readNumber width input).map fun (n, rest) => (.unsigned width n, rest)
    | .signed width, input =>
      (readNumber width input).map fun (n, rest) => (.signed (toSigned width n), rest)
    | .float32, input => (readNumber 4 input).map fun (n, rest) => (.float32 n, rest)
    | .float64, input => (readNumber 8 input).map fun (n, rest) => (.float64 n, rest)
    | .text length, input =>
      (readBytes length input).map fun (b, rest) => (ofTextBytes b, rest)
    | .textOf width, input => do
      let (length, input) ← readNumber width input
      let (b, rest) ← readBytes length input
      return (ofTextBytes b, rest)
    | .bytesOf width, input => do
      let (length, input) ← readNumber width input
      let (b, rest) ← readBytes length input
      return (.bytes b, rest)
    | _, _ => none
  readArray (read : Reader Value) (length : Nat) : Reader Value := fun input =>
    (readMany read length input).map fun (items, rest) => (.array items, rest)
  readMap (read : Reader Value) (length : Nat) : Reader Value := fun input =>
    (readMany (readPair read) length input).map fun (entries, rest) => (.map entries, rest)

/-- The value at the front of bytes. What follows it is left alone. -/
def decode? (input : List UInt8) : Option Value := (read maxDepth input).map (·.1)

end Value

end Wire

end InputBridge
