-- SUMMARY: The spellings of a value, and that the reader knows all of them.
import InputBridge.Proofs.Text.Utf8
import InputBridge.Wire.Value
import Mathlib.Algebra.Order.Ring.Nat
import Mathlib.Data.List.Induction

/-!
# The grammar of MessagePack

Most values can be spelled in more than one way: numbers and lengths may take more bytes than they
need. The reader knows all spellings: it has the value again, and leaves alone what follows it.
-/

namespace InputBridge.Wire

variable {width n : Nat} {part rest : List UInt8}

/-! ## Big-endian numbers -/

@[simp] theorem length_bigEndian (width n : Nat) : (bigEndian width n).length = width := by
  induction width generalizing n with
  | zero => rfl
  | succ width ih => rw [bigEndian, List.length_append, ih, List.length_singleton]

theorem ofBigEndian_concat (bytes : List UInt8) (b : UInt8) :
    ofBigEndian (bytes ++ [b]) = ofBigEndian bytes * 256 + b.toNat := by
  simp [ofBigEndian]

theorem ofBigEndian_bigEndian (h : n < 256 ^ width) : ofBigEndian (bigEndian width n) = n := by
  induction width generalizing n with
  | zero =>
    have hn : n = 0 := by simpa using h
    rw [hn]
    rfl
  | succ width ih =>
    have hhigh : n / 256 < 256 ^ width := Nat.div_lt_of_lt_mul (by rwa [← Nat.pow_succ'])
    have hlow : (UInt8.ofNat n).toNat = n % 256 := UInt8.toNat_ofNat'
    rw [bigEndian, ofBigEndian_concat, ih hhigh, hlow]
    omega

theorem ofBigEndian_lt (bytes : List UInt8) : ofBigEndian bytes < 256 ^ bytes.length := by
  induction bytes using List.reverseRecOn with
  | nil => exact Nat.one_pos
  | append_singleton bytes b ih =>
    have hb := b.toNat_lt
    rw [ofBigEndian_concat, List.length_append, List.length_singleton, Nat.pow_succ]
    omega

theorem bigEndian_ofBigEndian (bytes : List UInt8) :
    bigEndian bytes.length (ofBigEndian bytes) = bytes := by
  induction bytes using List.reverseRecOn with
  | nil => rfl
  | append_singleton bytes b ih =>
    have hhigh : (ofBigEndian bytes * 256 + b.toNat) / 256 = ofBigEndian bytes := by
      have hb := b.toNat_lt
      omega
    have hlow : UInt8.ofNat (ofBigEndian bytes * 256 + b.toNat) = b := by
      rw [UInt8.ofNat_add, UInt8.ofNat_mul]
      simp
    rw [List.length_append, List.length_singleton, bigEndian, ofBigEndian_concat, hhigh, hlow, ih]

/-- The number in two's complement of so many bytes. -/
def twosComplement (width : Nat) (i : Int) : Nat := (i % (2 ^ (8 * width) : Nat)).toNat

theorem toSigned_twosComplement {i : Int} (hwidth : 0 < width)
    (hlow : -(2 ^ (8 * width - 1) : Nat) ≤ i) (hhigh : i < (2 ^ (8 * width - 1) : Nat)) :
    toSigned width (twosComplement width i) = i ∧ twosComplement width i < 256 ^ width := by
  -- the modulus is twice the limit of the positive numbers, so the rest is linear
  have hdouble : 2 ^ (8 * width) = 2 * 2 ^ (8 * width - 1) := by
    rw [← Nat.pow_succ']
    congr 1
    omega
  have hpow : 256 ^ width = 2 ^ (8 * width) := by rw [Nat.pow_mul]
  rw [hpow, toSigned, twosComplement, Nat.one_shiftLeft, Nat.one_shiftLeft, hdouble]
  generalize 2 ^ (8 * width - 1) = half at hlow hhigh
  -- negative numbers stand in the upper half
  rcases Int.lt_or_le i 0 with hneg | hpos
  · have hmod : i % (2 * half : Nat) = i + (2 * half : Nat) := by
      rw [← Int.add_emod_right, Int.emod_eq_of_lt (by omega) (by omega)]
    rw [hmod]
    split <;> omega
  · have hmod : i % (2 * half : Nat) = i := Int.emod_eq_of_lt hpos (by omega)
    rw [hmod]
    split <;> omega

namespace Value

/-! ## Bytes and numbers at the front -/

theorem readBytes_eq (count : Nat) (input : List UInt8) : readBytes count input =
    if count ≤ input.length then some (input.take count, input.drop count) else none := by
  induction count generalizing input with
  | zero => simp [readBytes]
  | succ count ih =>
    cases input with
    | nil => simp [readBytes]
    | cons b input =>
      rw [readBytes, ih]
      by_cases h : count ≤ input.length <;> simp [h]

theorem readBytes_append (part rest : List UInt8) :
    readBytes part.length (part ++ rest) = some (part, rest) := by
  simp [readBytes_eq]

theorem readNumber_bigEndian (h : n < 256 ^ width) (rest : List UInt8) :
    readNumber width (bigEndian width n ++ rest) = some (n, rest) := by
  have hread := readBytes_append (bigEndian width n) rest
  rw [length_bigEndian] at hread
  rw [readNumber, hread, Option.map_some]
  dsimp only
  rw [ofBigEndian_bigEndian h]

theorem readMany_append {α β : Type} {read : Reader β} {bytes : α → List UInt8} {what : α → β}
    {xs : List α} (h : ∀ x ∈ xs, ∀ rest, read (bytes x ++ rest) = some (what x, rest))
    (rest : List UInt8) :
    readMany read xs.length (xs.flatMap bytes ++ rest) = some (xs.map what, rest) := by
  induction xs with
  | nil => rfl
  | cons x xs ih =>
    obtain ⟨hx, hxs⟩ := List.forall_mem_cons.mp h
    rw [List.flatMap_cons, List.append_assoc, List.length_cons, readMany, hx]
    simp [ih hxs]

theorem readPair_append {read : Reader Value} {k v : Value} {part part' : List UInt8}
    (hkey : ∀ rest, read (part ++ rest) = some (k, rest))
    (hvalue : ∀ rest, read (part' ++ rest) = some (v, rest)) (rest : List UInt8) :
    readPair read (part ++ part' ++ rest) = some ((k, v), rest) := by
  rw [List.append_assoc, readPair, hkey]
  simp [hvalue]

/-! ## Leading bytes -/

theorem toNat_ofNat (h : n < 256) : (UInt8.ofNat n).toNat = n := UInt8.toNat_ofNat_of_lt' h

theorem leadOf_small (h : n < 0x80) : leadOf (UInt8.ofNat n) = .done (.unsigned 1 n) := by
  have hn : (UInt8.ofNat n).toNat = n := toNat_ofNat (by omega)
  simp only [leadOf, hn, if_pos h]

theorem leadOf_map (h : n < 16) : leadOf (UInt8.ofNat (0x80 + n)) = .map n := by
  have hn : (UInt8.ofNat (0x80 + n)).toNat = 0x80 + n := toNat_ofNat (by omega)
  simp only [leadOf, hn]
  rw [if_neg (by omega), if_pos (by omega), Nat.add_sub_cancel_left]

theorem leadOf_array (h : n < 16) : leadOf (UInt8.ofNat (0x90 + n)) = .array n := by
  have hn : (UInt8.ofNat (0x90 + n)).toNat = 0x90 + n := toNat_ofNat (by omega)
  simp only [leadOf, hn]
  rw [if_neg (by omega), if_neg (by omega), if_pos (by omega), Nat.add_sub_cancel_left]

theorem leadOf_text (h : n < 32) : leadOf (UInt8.ofNat (0xa0 + n)) = .text n := by
  have hn : (UInt8.ofNat (0xa0 + n)).toNat = 0xa0 + n := toNat_ofNat (by omega)
  simp only [leadOf, hn]
  rw [if_neg (by omega), if_neg (by omega), if_neg (by omega), if_pos (by omega),
    Nat.add_sub_cancel_left]

theorem leadOf_negative {i : Int} (hlow : -32 ≤ i) (hhigh : i < 0) :
    leadOf (UInt8.ofNat (256 + i).toNat) = .done (.signed i) := by
  have hn : (UInt8.ofNat (256 + i).toNat).toNat = (256 + i).toNat := toNat_ofNat (by omega)
  simp only [leadOf, hn]
  rw [if_neg (by omega), if_neg (by omega), if_neg (by omega), if_neg (by omega),
    if_pos (by omega)]
  congr 2
  omega

/-- Leading bytes, each with the number of bytes it announces for a number or a length. -/
abbrev Leads := List (UInt8 × Nat)

def unsignedLeads : Leads := [(0xcc, 1), (0xcd, 2), (0xce, 4), (0xcf, 8)]
def signedLeads : Leads := [(0xd0, 1), (0xd1, 2), (0xd2, 4), (0xd3, 8)]
def textLeads : Leads := [(0xd9, 1), (0xda, 2), (0xdb, 4)]
def bytesLeads : Leads := [(0xc4, 1), (0xc5, 2), (0xc6, 4)]
def arrayLeads : Leads := [(0xdc, 2), (0xdd, 4)]
def mapLeads : Leads := [(0xde, 2), (0xdf, 4)]
def extensionLeads : Leads := [(0xc7, 1), (0xc8, 2), (0xc9, 4)]
/-- These announce the length of the data itself. -/
def fixedExtensionLeads : Leads := [(0xd4, 1), (0xd5, 2), (0xd6, 4), (0xd7, 8), (0xd8, 16)]

section LeadTables

variable {lead : UInt8}

theorem leadOf_unsigned (h : (lead, width) ∈ unsignedLeads) : leadOf lead = .unsigned width := by
  simp only [unsignedLeads, List.mem_cons, Prod.mk.injEq, List.not_mem_nil, or_false] at h
  rcases h with ⟨rfl, rfl⟩ | ⟨rfl, rfl⟩ | ⟨rfl, rfl⟩ | ⟨rfl, rfl⟩ <;> rfl

theorem leadOf_signed (h : (lead, width) ∈ signedLeads) :
    leadOf lead = .signed width ∧ 0 < width := by
  simp only [signedLeads, List.mem_cons, Prod.mk.injEq, List.not_mem_nil, or_false] at h
  rcases h with ⟨rfl, rfl⟩ | ⟨rfl, rfl⟩ | ⟨rfl, rfl⟩ | ⟨rfl, rfl⟩ <;> exact ⟨rfl, by decide⟩

theorem leadOf_textOf (h : (lead, width) ∈ textLeads) : leadOf lead = .textOf width := by
  simp only [textLeads, List.mem_cons, Prod.mk.injEq, List.not_mem_nil, or_false] at h
  rcases h with ⟨rfl, rfl⟩ | ⟨rfl, rfl⟩ | ⟨rfl, rfl⟩ <;> rfl

theorem leadOf_bytesOf (h : (lead, width) ∈ bytesLeads) : leadOf lead = .bytesOf width := by
  simp only [bytesLeads, List.mem_cons, Prod.mk.injEq, List.not_mem_nil, or_false] at h
  rcases h with ⟨rfl, rfl⟩ | ⟨rfl, rfl⟩ | ⟨rfl, rfl⟩ <;> rfl

theorem leadOf_arrayOf (h : (lead, width) ∈ arrayLeads) : leadOf lead = .arrayOf width := by
  simp only [arrayLeads, List.mem_cons, Prod.mk.injEq, List.not_mem_nil, or_false] at h
  rcases h with ⟨rfl, rfl⟩ | ⟨rfl, rfl⟩ <;> rfl

theorem leadOf_mapOf (h : (lead, width) ∈ mapLeads) : leadOf lead = .mapOf width := by
  simp only [mapLeads, List.mem_cons, Prod.mk.injEq, List.not_mem_nil, or_false] at h
  rcases h with ⟨rfl, rfl⟩ | ⟨rfl, rfl⟩ <;> rfl

theorem leadOf_extensionOf (h : (lead, width) ∈ extensionLeads) :
    leadOf lead = .extensionOf width := by
  simp only [extensionLeads, List.mem_cons, Prod.mk.injEq, List.not_mem_nil, or_false] at h
  rcases h with ⟨rfl, rfl⟩ | ⟨rfl, rfl⟩ | ⟨rfl, rfl⟩ <;> rfl

theorem leadOf_extension (h : (lead, n) ∈ fixedExtensionLeads) : leadOf lead = .extension n := by
  simp only [fixedExtensionLeads, List.mem_cons, Prod.mk.injEq, List.not_mem_nil, or_false] at h
  rcases h with ⟨rfl, rfl⟩ | ⟨rfl, rfl⟩ | ⟨rfl, rfl⟩ | ⟨rfl, rfl⟩ | ⟨rfl, rfl⟩ <;> rfl

end LeadTables

/-! ## Spellings -/

/-- The bytes of a length below `limit` are one leading byte from `base` on; those of any length
that fits are a leading byte and the length after it. -/
inductive Head (base limit : Nat) (leads : Leads) (length : Nat) : List UInt8 → Prop where
  | short (h : length < limit) : Head base limit leads length [UInt8.ofNat (base + length)]
  | wide {lead : UInt8} {width : Nat} (hlead : (lead, width) ∈ leads) (h : length < 256 ^ width) :
      Head base limit leads length (lead :: bigEndian width length)

/-- What bytes mean a value in which values are nested up to `depth` deep. The width of an unsigned
number is that of its spelling, and a text that is not UTF-8 is as good as its bytes. -/
inductive Spells : (depth : Nat) → Value → List UInt8 → Prop where
  | nil {depth : Nat} : Spells depth .nil [0xc0]
  | bool {depth : Nat} (b : Bool) : Spells depth (.bool b) [if b then 0xc3 else 0xc2]
  | small {depth n : Nat} (h : n < 0x80) : Spells depth (.unsigned 1 n) [UInt8.ofNat n]
  | unsigned {depth width n : Nat} {lead : UInt8} (hlead : (lead, width) ∈ unsignedLeads)
      (h : n < 256 ^ width) : Spells depth (.unsigned width n) (lead :: bigEndian width n)
  | negative {depth : Nat} {i : Int} (hlow : -32 ≤ i) (hhigh : i < 0) :
      Spells depth (.signed i) [UInt8.ofNat (256 + i).toNat]
  | signed {depth width : Nat} {lead : UInt8} {i : Int} (hlead : (lead, width) ∈ signedLeads)
      (hlow : -(2 ^ (8 * width - 1) : Nat) ≤ i) (hhigh : i < (2 ^ (8 * width - 1) : Nat)) :
      Spells depth (.signed i) (lead :: bigEndian width (twosComplement width i))
  | float32 {depth bits : Nat} (h : bits < 256 ^ 4) :
      Spells depth (.float32 bits) (0xca :: bigEndian 4 bits)
  | float64 {depth bits : Nat} (h : bits < 256 ^ 8) :
      Spells depth (.float64 bits) (0xcb :: bigEndian 8 bits)
  | text {depth : Nat} {head : List UInt8} (s : String)
      (hhead : Head 0xa0 32 textLeads (Text.Utf8.encode s).length head) :
      Spells depth (.text s) (head ++ Text.Utf8.encode s)
  | garbled {depth : Nat} {head b : List UInt8} (hb : Text.Utf8.decode? b = none)
      (hhead : Head 0xa0 32 textLeads b.length head) : Spells depth (.bytes b) (head ++ b)
  | bytes {depth : Nat} {head : List UInt8} (b : List UInt8)
      (hhead : Head 0xc4 0 bytesLeads b.length head) : Spells depth (.bytes b) (head ++ b)
  | array {depth : Nat} {head : List UInt8} {items : List (Value × List UInt8)}
      (hitems : ∀ p ∈ items, Spells depth p.1 p.2)
      (hhead : Head 0x90 16 arrayLeads items.length head) :
      Spells (depth + 1) (.array (items.map (·.1))) (head ++ items.flatMap (·.2))
  | map {depth : Nat} {head : List UInt8}
      {entries : List ((Value × List UInt8) × (Value × List UInt8))}
      (hkeys : ∀ p ∈ entries, Spells depth p.1.1 p.1.2)
      (hvalues : ∀ p ∈ entries, Spells depth p.2.1 p.2.2)
      (hhead : Head 0x80 16 mapLeads entries.length head) :
      Spells (depth + 1) (.map (entries.map fun p => (p.1.1, p.2.1)))
        (head ++ entries.flatMap fun p => p.1.2 ++ p.2.2)
  | extension {depth type : Nat} {lead : UInt8} {data : List UInt8} (htype : type < 256)
      (hlead : (lead, data.length) ∈ fixedExtensionLeads) :
      Spells (depth + 1) (.extension type data) (lead :: (bigEndian 1 type ++ data))
  | extensionOf {depth type width : Nat} {lead : UInt8} {data : List UInt8} (htype : type < 256)
      (hlead : (lead, width) ∈ extensionLeads) (hlength : data.length < 256 ^ width) :
      Spells (depth + 1) (.extension type data)
        (lead :: (bigEndian width data.length ++ (bigEndian 1 type ++ data)))

/-! ## Reading scalars -/

/-- What is not nested is read at every depth. -/
theorem read_of_readScalar {b : UInt8} {input : List UInt8} {r : Value × List UInt8}
    (h : read.readScalar (leadOf b) input = some r) (depth : Nat) :
    read depth (b :: input) = some r := by
  cases depth with
  | zero => exact h
  | succ depth =>
    unfold read
    -- the scalar reader refuses every lead that is treated apart
    cases hlead : leadOf b <;> rw [hlead] at h <;> first | exact h | cases h

theorem ofTextBytes_encode (s : String) : ofTextBytes (Text.Utf8.encode s) = .text s := by
  rw [ofTextBytes, Text.Utf8.decode?_encode]

theorem read_text {head b : List UInt8} (hhead : Head 0xa0 32 textLeads b.length head) (depth : Nat)
    (rest : List UInt8) : read depth (head ++ b ++ rest) = some (ofTextBytes b, rest) := by
  rw [List.append_assoc]
  cases hhead with
  | short h =>
    rw [List.singleton_append]
    apply read_of_readScalar
    rw [leadOf_text h, read.readScalar, readBytes_append, Option.map_some]
  | wide hlead h =>
    rw [List.cons_append]
    apply read_of_readScalar
    rw [leadOf_textOf hlead, read.readScalar, readNumber_bigEndian h]
    simp [readBytes_append]

theorem read_bytes {head b : List UInt8} (hhead : Head 0xc4 0 bytesLeads b.length head)
    (depth : Nat) (rest : List UInt8) :
    read depth (head ++ b ++ rest) = some (.bytes b, rest) := by
  rw [List.append_assoc]
  cases hhead with
  | short h => exact absurd h (Nat.not_lt_zero _)
  | wide hlead h =>
    rw [List.cons_append]
    apply read_of_readScalar
    rw [leadOf_bytesOf hlead, read.readScalar, readNumber_bigEndian h]
    simp [readBytes_append]

/-! ## Reading what is nested -/

variable {depth : Nat} {head : List UInt8}

theorem read_array {items : List (Value × List UInt8)}
    (hitems : ∀ p ∈ items, ∀ rest, read depth (p.2 ++ rest) = some (p.1, rest))
    (hhead : Head 0x90 16 arrayLeads items.length head) (rest : List UInt8) :
    read (depth + 1) (head ++ items.flatMap (·.2) ++ rest) =
      some (.array (items.map (·.1)), rest) := by
  have many := readMany_append hitems rest
  rw [List.append_assoc]
  cases hhead with
  -- the length is in the first byte, or in bytes behind it
  | short h =>
    rw [List.singleton_append, read, leadOf_array h]
    simp [read.readArray, many]
  | wide hlead h =>
    rw [List.cons_append, read, leadOf_arrayOf hlead]
    simp [readNumber_bigEndian h, read.readArray, many]

theorem read_map {entries : List ((Value × List UInt8) × (Value × List UInt8))}
    (hkeys : ∀ p ∈ entries, ∀ rest, read depth (p.1.2 ++ rest) = some (p.1.1, rest))
    (hvalues : ∀ p ∈ entries, ∀ rest, read depth (p.2.2 ++ rest) = some (p.2.1, rest))
    (hhead : Head 0x80 16 mapLeads entries.length head) (rest : List UInt8) :
    read (depth + 1) (head ++ entries.flatMap (fun p => p.1.2 ++ p.2.2) ++ rest) =
      some (.map (entries.map fun p => (p.1.1, p.2.1)), rest) := by
  have many := readMany_append
    (fun p hp => readPair_append (hkeys p hp) (hvalues p hp)) rest
  rw [List.append_assoc]
  cases hhead with
  | short h =>
    rw [List.singleton_append, read, leadOf_map h]
    simp [read.readMap, many]
  | wide hlead h =>
    rw [List.cons_append, read, leadOf_mapOf hlead]
    simp [readNumber_bigEndian h, read.readMap, many]

theorem readExtension_append {type : Nat} (htype : type < 256) (data rest : List UInt8) :
    readExtension data.length (bigEndian 1 type ++ data ++ rest) =
      some (.extension type data, rest) := by
  rw [List.append_assoc, readExtension, readNumber_bigEndian (by simpa using htype)]
  simp [readBytes_append]

/-! ## All values -/

/-- Every spelling of a value is read as the value, whatever comes after it. -/
theorem Spells.read {v : Value} {bytes : List UInt8} (h : Spells depth v bytes)
    (rest : List UInt8) : read depth (bytes ++ rest) = some (v, rest) := by
  induction h generalizing rest with
  | nil => exact read_of_readScalar (b := 0xc0) rfl _
  | bool b =>
    cases b with
    | false => exact read_of_readScalar (b := 0xc2) rfl _
    | true => exact read_of_readScalar (b := 0xc3) rfl _
  | small h =>
    apply read_of_readScalar
    rw [leadOf_small h]
    rfl
  | unsigned hlead h =>
    rw [List.cons_append]
    apply read_of_readScalar
    rw [leadOf_unsigned hlead, read.readScalar, readNumber_bigEndian h, Option.map_some]
  | negative hlow hhigh =>
    apply read_of_readScalar
    rw [leadOf_negative hlow hhigh]
    rfl
  | signed hlead hlow hhigh =>
    -- the sign is recovered from the width that the first byte tells
    obtain ⟨hlead, hwidth⟩ := leadOf_signed hlead
    obtain ⟨hback, hfits⟩ := toSigned_twosComplement hwidth hlow hhigh
    rw [List.cons_append]
    apply read_of_readScalar
    rw [hlead, read.readScalar, readNumber_bigEndian hfits, Option.map_some]
    dsimp only
    rw [hback]
  | float32 h =>
    have hlead : leadOf 0xca = .float32 := rfl
    rw [List.cons_append]
    apply read_of_readScalar
    rw [hlead, read.readScalar, readNumber_bigEndian h, Option.map_some]
  | float64 h =>
    have hlead : leadOf 0xcb = .float64 := rfl
    rw [List.cons_append]
    apply read_of_readScalar
    rw [hlead, read.readScalar, readNumber_bigEndian h, Option.map_some]
  | text s hhead => rw [read_text hhead, ofTextBytes_encode]
  | garbled hb hhead => rw [read_text hhead, ofTextBytes, hb]
  | bytes b hhead => exact read_bytes hhead _ rest
  | array _ hhead ih => exact read_array ih hhead rest
  | map _ _ hhead ihKeys ihValues => exact read_map ihKeys ihValues hhead rest
  | extension htype hlead =>
    rw [List.cons_append, Value.read, leadOf_extension hlead]
    exact readExtension_append htype _ rest
  | extensionOf htype hlead hlength =>
    rw [List.cons_append, Value.read, leadOf_extensionOf hlead]
    simp only [List.append_assoc, readNumber_bigEndian hlength, Option.bind_eq_bind,
      Option.bind_some]
    -- the type and the bytes are read as after a fixed length
    rw [← List.append_assoc]
    exact readExtension_append htype _ rest

theorem Spells.decode? {v : Value} {bytes : List UInt8} (h : Spells maxDepth v bytes) :
    decode? bytes = some v := by
  have read := h.read []
  rw [List.append_nil] at read
  rw [Value.decode?, read, Option.map_some]

end Value

end InputBridge.Wire
