-- SUMMARY: Where the pointers of an image stand and lead to, and which tables have an image.
import InputBridge.Proofs.Keyboard.Image
import Mathlib.Algebra.Ring.Nat
import Mathlib.Data.List.Chain
import Mathlib.Data.List.Pairwise
import Mathlib.Data.List.Range

/-!
# The pointers of an image

Where an image has its pointers can be told from the image and the numbers of the
names alone. Whoever follows them comes to the parts, which stand one behind the
other. Whether there is an image depends only on its size.
-/

namespace InputBridge

namespace KeyTables

variable {t : KeyTables} {image part : List UInt8} {off : Nat} {p q : TablePart}

/-! ## Parts -/

/-- The bytes of a part, if the tables have it. -/
def part? (t : KeyTables) : TablePart → Option (List UInt8)
  | .modifiers => some (t.modifiersBytes t.plan)
  | .bits => some t.bitsBytes
  | .charTable => some (charTableBytes t.plan)
  | .charRows => some t.charRowsBytes
  | .base => some t.baseBytes
  | .extended0 => some (extendedBytes t.extended0)
  | .extended1 => some (extendedBytes t.extended1)
  | .names => some (namesBytes (t.placedNames.take t.names.length))
  | .namesExtended => some (namesBytes (t.placedNames.drop t.names.length))
  | .text i => (t.names ++ t.namesExtended)[i]?.map textBytes

/-- Where an image of such tables has the pointer to a part. -/
def slot (t : KeyTables) (image : List UInt8) : TablePart → Nat
  | .modifiers => 0
  | .charTable => 8
  | .names => 24
  | .namesExtended => 32
  | .base => 48
  | .extended0 => 64
  | .extended1 => 72
  | .bits => numberAt image 0 8
  | .charRows => numberAt image 8 8
  | .text i =>
    if i < t.names.length then numberAt image 24 8 + nameEntrySize * i + 8
    else numberAt image 32 8 + nameEntrySize * (i - t.names.length) + 8

/-- The place that the image gives for a part. -/
def pointer (t : KeyTables) (image : List UInt8) (p : TablePart) : Nat :=
  numberAt image (t.slot image p) 8

/-- Every pointer leads to its part, and the parts are apart from each other. -/
structure PointersLead (t : KeyTables) (image : List UInt8) : Prop where
  stands : ∀ p bytes, t.part? p = some bytes → At image (t.pointer image p) bytes ∧
    headerSize ≤ t.pointer image p ∧ t.pointer image p + bytes.length ≤ image.length
  aligned : ∀ p, (∀ i, p ≠ .text i) → 8 ∣ t.pointer image p
  apart : ∀ p q bytes bytes', p ≠ q → t.part? p = some bytes → t.part? q = some bytes' →
    t.pointer image p + bytes.length ≤ t.pointer image q ∨
      t.pointer image q + bytes'.length ≤ t.pointer image p
  unused : numberAt image 16 8 = 0 ∧ numberAt image 40 8 = 0 ∧ numberAt image 88 8 = 0

/-! ## Places in lists -/

theorem At.length_le (h : At image off part) (hpart : part ≠ []) :
    off + part.length ≤ image.length := by
  have hlt := h.lt_length hpart
  obtain ⟨rest, h⟩ := h
  have hlength := congrArg List.length h
  rw [List.length_drop, List.length_append] at hlength
  omega

theorem At.flatMap {β : Type} {enc : β → List UInt8} {xs : List β}
    (h : At image off (xs.flatMap enc)) {i : Nat} (hi : i < xs.length) :
    At image (off + ((xs.take i).flatMap enc).length) (enc xs[i]) := by
  have hsplit : xs.flatMap enc =
      (xs.take i).flatMap enc ++ (enc xs[i] ++ (xs.drop (i + 1)).flatMap enc) := by
    rw [← List.flatMap_cons, List.getElem_cons_drop, ← List.flatMap_append,
      List.take_append_drop]
  rw [hsplit] at h
  exact h.right.left

/-- The pointer of a name entry stands in the second half of the entry. -/
theorem At.namePointer {placed : List (KeyName × Nat)} (h : At image off (namesBytes placed))
    {i : Nat} (hi : i < placed.length) :
    At image (off + nameEntrySize * i + 8) (offset placed[i].2) := by
  have entry := h.left.flatMap hi
  have hlength : ∀ e ∈ placed.take i,
      ([e.1.scan] ++ zeros 7 ++ offset e.2).length = nameEntrySize := fun _ _ => rfl
  rw [length_flatMap hlength, List.length_take, Nat.min_eq_left (Nat.le_of_lt hi)] at entry
  exact entry.right

/-! ## The parts stand at their places -/

theorem mem_of_part? {bytes : List UInt8} (h : t.part? p = some bytes) :
    p ∈ t.partsInOrder := by
  rw [mem_partsInOrder]
  rintro i rfl
  obtain ⟨n, hn, -⟩ := Option.map_eq_some_iff.mp h
  exact (List.getElem?_eq_some_iff.mp hn).1

/-- There is no empty part. -/
theorem ne_nil_of_part? {bytes : List UInt8} (h : t.part? p = some bytes) : bytes ≠ [] := by
  suffices hpos : 0 < bytes.length from List.length_pos_iff.mp hpos
  cases p with
  | text i =>
    obtain ⟨n, -, rfl⟩ := Option.map_eq_some_iff.mp h
    rw [length_textBytes]
    omega
  | modifiers | bits | charTable | charRows | base | extended0 | extended1 | names |
    namesExtended =>
    cases h
    simp [modifiersSize, charTableEntrySize, baseSize, listSize, bitsEntrySize, charRowSize,
      extendedEntrySize, nameEntrySize]

theorem exists_part? (h : p ∈ t.partsInOrder) : ∃ bytes, t.part? p = some bytes := by
  cases p with
  | text i => exact ⟨_, by rw [part?, List.getElem?_eq_getElem (mem_partsInOrder.mp h i rfl)]; rfl⟩
  | modifiers | bits | charTable | charRows | base | extended0 | extended1 | names |
    namesExtended => exact ⟨_, rfl⟩

theorem headerSize_le_place (t : KeyTables) (p : TablePart) : headerSize ≤ t.place p := by
  cases p <;> simp only [place, plan] <;> omega

/-- Only texts may begin anywhere. -/
theorem dvd_place (hp : ∀ i, p ≠ .text i) : 8 ∣ t.place p := by
  have modifiers : 8 ∣ t.plan.modifiers := show 8 ∣ headerSize by decide
  have bits : 8 ∣ t.plan.bits := Nat.dvd_add modifiers (by decide)
  have charTable : 8 ∣ t.plan.charTable := Nat.dvd_add bits (dvd_align _)
  have base : 8 ∣ t.plan.base := Nat.dvd_add charTable (by decide)
  have extended0 : 8 ∣ t.plan.extended0 := Nat.dvd_add base (by decide)
  have extended1 : 8 ∣ t.plan.extended1 := Nat.dvd_add extended0 (dvd_align _)
  have charRows : 8 ∣ t.plan.charRows := Nat.dvd_add extended1 (dvd_align _)
  have names : 8 ∣ t.plan.names := Nat.dvd_add charRows (dvd_align _)
  have namesExtended : 8 ∣ t.plan.namesExtended :=
    Nat.dvd_add names (Nat.dvd_mul_right_of_dvd (by decide) _)
  cases p with
  | text i => exact absurd rfl (hp i)
  -- every other part begins at one of the offsets just shown
  | _ => assumption

theorem Laid.part? (laid : t.Laid image) {bytes : List UInt8} (h : t.part? p = some bytes) :
    At image (t.place p) bytes := by
  cases p with
  | modifiers => exact Option.some.inj h ▸ laid.modifiers
  | bits => exact Option.some.inj h ▸ laid.bits
  | charTable => exact Option.some.inj h ▸ laid.charTable
  | charRows => exact Option.some.inj h ▸ laid.charRows
  | base => exact Option.some.inj h ▸ laid.base
  | extended0 => exact Option.some.inj h ▸ laid.extended0
  | extended1 => exact Option.some.inj h ▸ laid.extended1
  | names => exact Option.some.inj h ▸ laid.names
  | namesExtended => exact Option.some.inj h ▸ laid.namesExtended
  | text i =>
    obtain ⟨n, hn, rfl⟩ := Option.map_eq_some_iff.mp h
    obtain ⟨hi, rfl⟩ := List.getElem?_eq_some_iff.mp hn
    exact laid.texts.flatMap hi

/-! ## The parts stand one behind the other -/

/-- The one part ends before the other begins. -/
def Before (t : KeyTables) (p q : TablePart) : Prop :=
  t.place p + ((t.part? p).getD []).length ≤ t.place q

instance (t : KeyTables) : Trans t.Before t.Before t.Before where
  trans h h' := Nat.le_trans h (Nat.le_trans (Nat.le_add_right _ _) h')

/-- Every text is followed by the next one at once. -/
theorem place_text_succ {i : Nat} (hi : i < (t.names ++ t.namesExtended).length) :
    t.place (.text (i + 1)) =
      t.place (.text i) + (textBytes (t.names ++ t.namesExtended)[i]).length := by
  have hnext : (t.names ++ t.namesExtended).take (i + 1) =
      (t.names ++ t.namesExtended).take i ++ [(t.names ++ t.namesExtended)[i]] :=
    List.take_succ_eq_append_getElem hi
  simp only [place, hnext, List.flatMap_append, List.flatMap_singleton, List.length_append]
  omega

theorem before_text_succ {i : Nat} (hi : i < (t.names ++ t.namesExtended).length) :
    t.Before (.text i) (.text (i + 1)) := by
  rw [Before, place_text_succ hi, part?, List.getElem?_eq_getElem hi, Option.map_some,
    Option.getD_some]

theorem before_text_of_namesExtended (i : Nat) : t.Before .namesExtended (.text i) := by
  simp [Before, part?, place, plan, length_placedNames]

theorem pairwise_before (t : KeyTables) : t.partsInOrder.Pairwise t.Before := by
  rw [← List.isChain_iff_pairwise, partsInOrder, List.isChain_append]
  refine ⟨?sections, ?texts, ?between⟩
  case sections =>
    simp only [List.isChain_cons_cons, List.isChain_singleton, Before, part?, place, plan,
      Option.getD_some]
    simp [le_align, length_placedNames]
  -- a text ends where the next one begins
  case texts =>
    rw [List.isChain_map, List.isChain_range]
    intro i hi
    exact before_text_succ (by omega)
  -- the last section is in front of the texts, of which only the first is to be compared
  case between =>
    intro p hp q hq
    obtain rfl : .namesExtended = p := by simpa using hp
    obtain ⟨i, -, rfl⟩ := List.mem_map.mp (List.mem_of_mem_head? hq)
    exact before_text_of_namesExtended i

/-! ## The pointers lead to the places -/

theorem Laid.place_lt (laid : t.Laid image) (hsize : image.length ≤ maxImageSize)
    (hp : p ∈ t.partsInOrder) : t.place p < 256 ^ 8 := by
  obtain ⟨bytes, hbytes⟩ := exists_part? hp
  exact (laid.part? hbytes).offset_lt hsize (List.length_pos_iff.mpr (ne_nil_of_part? hbytes))

/-- The pointers of names lead to the texts with their numbers. -/
theorem Laid.textPointer {placed : List (KeyName × Nat)} {i : Nat} (laid : t.Laid image)
    (hsize : image.length ≤ maxImageSize) (first : Nat) (hplaced : At image off (namesBytes placed))
    (hi : i < placed.length) (htext : placed[i].2 = t.place (.text (first + i)))
    (hp : .text (first + i) ∈ t.partsInOrder) :
    numberAt image (off + nameEntrySize * i + 8) 8 = t.place (.text (first + i)) := by
  have entry := hplaced.namePointer hi
  rw [htext] at entry
  exact entry.number (laid.place_lt hsize hp)

theorem Laid.pointer (laid : t.Laid image) (hsize : image.length ≤ maxImageSize)
    (hp : p ∈ t.partsInOrder) : t.pointer image p = t.place p := by
  obtain ⟨modifiersAt, charTableAt, namesAt, namesExtendedAt, baseAt, extended0At, extended1At,
    -⟩ := laid.header_numbers hsize laid.header
  cases p with
  | modifiers => exact modifiersAt
  | charTable => exact charTableAt
  | names => exact namesAt
  | namesExtended => exact namesExtendedAt
  | base => exact baseAt
  | extended0 => exact extended0At
  | extended1 => exact extended1At
  | bits =>
    -- the pointer is the first thing in the part, as in the one of the rows of characters
    have bits : At image t.plan.modifiers (offset t.plan.bits) := laid.modifiers.left.left.left
    rw [KeyTables.pointer, slot, modifiersAt]
    exact bits.number (laid.place_lt hsize hp)
  | charRows =>
    have rows : At image t.plan.charTable (offset t.plan.charRows) := laid.charTable.left.left.left
    rw [KeyTables.pointer, slot, charTableAt]
    exact rows.number (laid.place_lt hsize hp)
  | text i =>
    have hi := mem_partsInOrder.mp hp i rfl
    rw [KeyTables.pointer, slot]
    -- the texts of both lists are numbered through, but their pointers are in two sections
    split
    · next hfirst =>
      rw [namesAt]
      have lead := laid.textPointer (i := i) hsize 0 laid.names
        (by rw [List.length_take, length_placedNames]; omega)
        (by rw [List.getElem_take, getElem_placedNames, Nat.zero_add]) (by rwa [Nat.zero_add])
      rwa [Nat.zero_add] at lead
    · next hsecond =>
      rw [namesExtendedAt]
      obtain ⟨j, rfl⟩ := Nat.exists_eq_add_of_le (Nat.le_of_not_lt hsecond)
      rw [Nat.add_sub_cancel_left]
      exact laid.textPointer hsize t.names.length laid.namesExtended
        (by rw [List.length_append] at hi; simp [length_placedNames]; omega)
        (by rw [List.getElem_drop, getElem_placedNames]) hp

/-! ## Sizes -/

/-- The size of the image. It depends only on the numbers of the entries and on the lengths of
the names. -/
def imageSize (t : KeyTables) : Nat :=
  672 + KeyTables.align (2 * t.modifierBits.length + 2)
    + KeyTables.align (4 * t.extended0.length + 4) + KeyTables.align (4 * t.extended1.length + 4)
    + KeyTables.align (18 * t.charRows.length + 18)
    + 16 * (t.names.length + 1) + 16 * (t.namesExtended.length + 1)
    + 2 * ((t.names ++ t.namesExtended).map fun n => (Text.Utf16.encode n.name).length + 1).sum

theorem length_texts (names : List KeyName) : (names.flatMap textBytes).length =
    2 * (names.map fun n => (Text.Utf16.encode n.name).length + 1).sum := by
  induction names with
  | nil => rfl
  | cons n names ih =>
    rw [List.flatMap_cons, List.length_append, length_textBytes, ih, List.map_cons,
      List.sum_cons, ← Nat.mul_add]

theorem length_imageBytes_eq (t : KeyTables) : t.imageBytes.length = t.imageSize := by
  have hlist : ∀ size count, listSize size count = size * count + size := Nat.mul_succ
  rw [length_imageBytes, length_texts, imageSize]
  simp only [plan, hlist, headerSize, modifiersSize, charTableEntrySize, baseSize,
    bitsEntrySize, extendedEntrySize, charRowSize, nameEntrySize]
  omega

/-! ## All images -/

/-- Two parts are apart, for one of them stands before the other. -/
theorem before_or_before (hp : p ∈ t.partsInOrder) (hq : q ∈ t.partsInOrder) (hne : p ≠ q) :
    t.Before p q ∨ t.Before q p := by
  have symmetric : Std.Symm fun p q => t.Before p q ∨ t.Before q p := ⟨fun _ _ => Or.symm⟩
  have apart : t.partsInOrder.Pairwise fun p q => t.Before p q ∨ t.Before q p :=
    t.pairwise_before.imp Or.inl
  exact apart.forall hp hq hne

/-- The pointers for what no table has are zero. -/
theorem Laid.unused (laid : t.Laid image) :
    numberAt image 16 8 = 0 ∧ numberAt image 40 8 = 0 ∧ numberAt image 88 8 = 0 := by
  have header := laid.header
  unfold headerBytes at header
  simp only [List.append_assoc] at header
  have deadKeys := header.after (n := 8) rfl |>.after (n := 16) rfl
  have namesDead := deadKeys.after (n := 24) rfl |>.after (n := 32) rfl |>.after (n := 40) rfl
  have flags := namesDead.after (n := 48) rfl |>.after (n := 56) rfl |>.after (n := 57) rfl
    |>.after (n := 64) rfl |>.after (n := 72) rfl |>.after (n := 80) rfl
  have ligatures := flags.after (n := 84) rfl |>.after (n := 88) rfl
  exact ⟨deadKeys.left.number (by decide), namesDead.left.number (by decide),
    ligatures.left.number (by decide)⟩

theorem Laid.pointersLead (laid : t.Laid image) (hsize : image.length ≤ maxImageSize) :
    t.PointersLead image where
  stands p bytes h := by
    -- what a pointer holds is the place of its part, so the rest is about places
    rw [laid.pointer hsize (mem_of_part? h)]
    have stands := laid.part? h
    exact ⟨stands, headerSize_le_place t p, stands.length_le (ne_nil_of_part? h)⟩
  aligned p hp := by
    rw [laid.pointer hsize (mem_partsInOrder.mpr fun i hi => absurd hi (hp i))]
    exact dvd_place hp
  apart p q bytes bytes' hne h h' := by
    rw [laid.pointer hsize (mem_of_part? h), laid.pointer hsize (mem_of_part? h')]
    simpa only [Before, h, h', Option.getD_some] using
      before_or_before (mem_of_part? h) (mem_of_part? h') hne
  unused := laid.unused

/-- Whatever the tables are, they have an image if it is not too large, and writing it never
comes to a part that is not there. -/
theorem image_cases (t : KeyTables) :
    (∀ fault, t.image ≠ .error (.malformed fault)) ∧
    if t.imageSize ≤ 32768 then
      ∃ image, t.image = .ok image ∧ image.length = t.imageSize ∧ t.PointersLead image
    else t.image = .error (.tooLarge t.imageSize) := by
  rw [image_eq, length_imageBytes_eq, maxImageSize]
  by_cases hsize : t.imageSize ≤ 32768
  · rw [if_neg (Nat.not_lt_of_le hsize), if_pos hsize]
    rw [← length_imageBytes_eq] at hsize
    exact ⟨nofun, t.imageBytes, rfl, length_imageBytes_eq t,
      (imageBytes_laid t).pointersLead hsize⟩
  · rw [if_pos (Nat.lt_of_not_le hsize), if_neg hsize]
    exact ⟨nofun, rfl⟩

end KeyTables

end InputBridge
