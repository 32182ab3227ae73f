-- SUMMARY: Sizes and places of the sections of an image.
import InputBridge.Proofs.Keyboard.Bytes

/-!
# The sections of an image

The sections of an image have sizes that do not depend on the offsets in them. They
stand where the plan has them, and every text where its name entry says.
-/

namespace InputBridge

namespace KeyTables

variable {image : List UInt8} {t : KeyTables}

/-! ## Sizes -/

theorem le_align (n : Nat) : n ≤ align n := by
  unfold align
  omega

@[simp] theorem length_padded (bytes : List UInt8) :
    (padded bytes).length = align bytes.length := by
  rw [padded, List.length_append, length_zeros, Nat.add_sub_cancel' (le_align _)]

theorem dvd_align (n : Nat) : 8 ∣ align n := Nat.dvd_mul_left 8 _

theorem align_eq {n : Nat} (h : 8 ∣ n) : align n = n := by
  unfold align
  omega

/-- Sections of these sizes are followed by the next one at once. -/
@[simp] theorem align_headerSize : align headerSize = headerSize := rfl

@[simp] theorem align_modifiersSize : align modifiersSize = modifiersSize := rfl

@[simp] theorem align_charTableSize :
    align (2 * charTableEntrySize) = 2 * charTableEntrySize := rfl

@[simp] theorem align_baseSize : align (2 * baseSize) = 2 * baseSize :=
  align_eq (by decide)

@[simp] theorem align_namesSize (count : Nat) :
    align (listSize nameEntrySize count) = listSize nameEntrySize count :=
  align_eq (Nat.dvd_mul_right_of_dvd (by decide) _)

theorem padded_append {a b : List UInt8} (h : 8 ∣ a.length) :
    padded (a ++ b) = a ++ padded b := by
  have hzeros : align (a ++ b).length - (a ++ b).length = align b.length - b.length := by
    rw [List.length_append]
    unfold align
    omega
  rw [padded, hzeros, List.append_assoc, padded]

theorem padded_eq (bytes : List UInt8) (h : align bytes.length = bytes.length) :
    padded bytes = bytes := by
  rw [padded, h, Nat.sub_self]
  exact List.append_nil bytes

theorem length_flatMap {β : Type} {enc : β → List UInt8} {size : Nat} {xs : List β}
    (h : ∀ x ∈ xs, (enc x).length = size) : (xs.flatMap enc).length = size * xs.length := by
  induction xs with
  | nil => rfl
  | cons x xs ih =>
    obtain ⟨hx, hxs⟩ := List.forall_mem_cons.mp h
    rw [List.flatMap_cons, List.length_append, hx, ih hxs, List.length_cons, Nat.mul_succ,
      Nat.add_comm]

theorem length_entries {β : Type} {enc : β → List UInt8} {size : Nat} {xs : List β}
    (h : ∀ x ∈ xs, (enc x).length = size) :
    (xs.flatMap enc ++ zeros size).length = listSize size xs.length := by
  rw [List.length_append, length_flatMap h, length_zeros, listSize, Nat.mul_succ]

theorem length_words (ws : List UInt16) : (ws.flatMap word).length = 2 * ws.length :=
  length_flatMap fun w _ => length_word w

@[simp] theorem length_headerBytes (t : KeyTables) (p : Plan) :
    (t.headerBytes p).length = headerSize := by
  simp [headerBytes, headerSize]

@[simp] theorem length_modifiersBytes (t : KeyTables) (p : Plan) :
    (t.modifiersBytes p).length = modifiersSize := by
  simp [modifiersBytes, modifiersSize]

@[simp] theorem length_bitsBytes (t : KeyTables) :
    t.bitsBytes.length = listSize bitsEntrySize t.modifierBits.length :=
  length_entries fun _ _ => rfl

@[simp] theorem length_charTableBytes (p : Plan) :
    (charTableBytes p).length = 2 * charTableEntrySize := rfl

/-- The virtual keys of the base scan codes stand one after the other. -/
theorem baseBytes_eq (h : t.base.length = baseSize) : t.baseBytes = t.base.flatMap word := by
  have hmap : (List.range baseSize).map (fun i => t.base.getD i 0) = t.base := by
    apply List.ext_getElem (by simp [h])
    intro i hi hi'
    simp [hi']
  calc t.baseBytes
    _ = ((List.range baseSize).map fun i => t.base.getD i 0).flatMap word := by
      rw [List.flatMap_map]
      rfl
    _ = t.base.flatMap word := by rw [hmap]

@[simp] theorem length_baseBytes (t : KeyTables) : t.baseBytes.length = 2 * baseSize := by
  rw [baseBytes, length_flatMap fun _ _ => length_word _, List.length_range]

@[simp] theorem length_extendedBytes (entries : List (UInt8 × UInt16)) :
    (extendedBytes entries).length = listSize extendedEntrySize entries.length :=
  length_entries fun _ _ => rfl

@[simp] theorem length_charRowBytes (r : CharRow) : (CharRow.bytes r).length = charRowSize := by
  rw [CharRow.bytes, List.length_append, length_words, Vector.length_toList]
  rfl

@[simp] theorem length_charRowsBytes (t : KeyTables) :
    t.charRowsBytes.length = listSize charRowSize t.charRows.length :=
  length_entries fun r _ => length_charRowBytes r

@[simp] theorem length_namesBytes (names : List (KeyName × Nat)) :
    (namesBytes names).length = listSize nameEntrySize names.length :=
  length_entries fun _ _ => rfl

theorem length_textBytes (n : KeyName) :
    (textBytes n).length = 2 * ((Text.Utf16.encode n.name).length + 1) := by
  rw [textBytes, List.length_append, length_words, length_zeros, Nat.mul_succ]

/-! ## Places of texts -/

@[simp] theorem map_fst_withTextOffsets (start : Nat) (names : List KeyName) :
    (withTextOffsets start names).map Prod.fst = names := by
  induction names generalizing start with
  | nil => rfl
  | cons n names ih => rw [withTextOffsets, List.map_cons, ih]

@[simp] theorem length_withTextOffsets (start : Nat) (names : List KeyName) :
    (withTextOffsets start names).length = names.length := by
  rw [← List.length_map Prod.fst, map_fst_withTextOffsets]

/-- Texts that are laid out one after the other stand where their offsets say. -/
theorem At.texts {start : Nat} {names : List KeyName}
    (h : At image start (names.flatMap textBytes)) :
    ∀ e ∈ withTextOffsets start names, At image e.2 (textBytes e.1) := by
  induction names generalizing start with
  | nil =>
    intro e he
    cases he
  | cons n names ih =>
    intro e he
    rw [List.flatMap_cons] at h
    rcases List.mem_cons.mp he with rfl | he
    · exact h.left
    -- the next text begins where this one ends
    · refine ih (h.after ?_) e he
      rw [length_textBytes]

/-! ## Places of sections -/

/-- The key names with the offsets of their texts. -/
def placedNames (t : KeyTables) : List (KeyName × Nat) :=
  withTextOffsets t.plan.texts (t.names ++ t.namesExtended)

theorem map_fst_placedNames (t : KeyTables) :
    t.placedNames.map Prod.fst = t.names ++ t.namesExtended :=
  map_fst_withTextOffsets _ _

theorem length_placedNames (t : KeyTables) :
    t.placedNames.length = (t.names ++ t.namesExtended).length :=
  length_withTextOffsets _ _

theorem map_fst_take_placedNames (t : KeyTables) :
    (t.placedNames.take t.names.length).map Prod.fst = t.names := by
  rw [List.map_take, map_fst_placedNames, List.take_left]

theorem map_fst_drop_placedNames (t : KeyTables) :
    (t.placedNames.drop t.names.length).map Prod.fst = t.namesExtended := by
  rw [List.map_drop, map_fst_placedNames, List.drop_left]

/-- Every section stands where the plan has it. -/
structure Laid (t : KeyTables) (image : List UInt8) : Prop where
  header : At image 0 (t.headerBytes t.plan)
  modifiers : At image t.plan.modifiers (t.modifiersBytes t.plan)
  bits : At image t.plan.bits t.bitsBytes
  charTable : At image t.plan.charTable (charTableBytes t.plan)
  base : At image t.plan.base t.baseBytes
  extended0 : At image t.plan.extended0 (extendedBytes t.extended0)
  extended1 : At image t.plan.extended1 (extendedBytes t.extended1)
  charRows : At image t.plan.charRows t.charRowsBytes
  names : At image t.plan.names (namesBytes (t.placedNames.take t.names.length))
  namesExtended : At image t.plan.namesExtended (namesBytes (t.placedNames.drop t.names.length))
  texts : At image t.plan.texts ((t.names ++ t.namesExtended).flatMap textBytes)

theorem imageBytes_laid (t : KeyTables) : t.Laid t.imageBytes := by
  -- shown for every image that begins with these bytes, so that it can be split in front
  suffices laid : ∀ image, At image 0 t.imageBytes → t.Laid image from laid _ (At.self _)
  intro image header
  unfold imageBytes at header
  simp only [List.append_assoc] at header
  -- each section begins where the sizes of those in front of it add up to
  have modifiers := header.after (n := t.plan.modifiers) (by simp [plan])
  have bits := modifiers.after (n := t.plan.bits) (by simp [plan])
  have charTable := bits.after (n := t.plan.charTable) (by simp [plan])
  have base := charTable.after (n := t.plan.base) (by simp [plan])
  have extended0 := base.after (n := t.plan.extended0) (by simp [plan])
  have extended1 := extended0.after (n := t.plan.extended1) (by simp [plan])
  have charRows := extended1.after (n := t.plan.charRows) (by simp [plan])
  have names := charRows.after (n := t.plan.names) (by simp [plan])
  have namesExtended := names.after (n := t.plan.namesExtended) (by simp [plan])
  have texts := namesExtended.after (n := t.plan.texts) (by simp [plan])
  have bits' : At image t.plan.bits (padded t.bitsBytes) := bits.left
  have extended0' : At image t.plan.extended0 (padded (extendedBytes t.extended0)) :=
    extended0.left
  have extended1' : At image t.plan.extended1 (padded (extendedBytes t.extended1)) :=
    extended1.left
  have charRows' : At image t.plan.charRows (padded t.charRowsBytes) := charRows.left
  exact ⟨header.left, modifiers.left, bits'.left, charTable.left, base.left, extended0'.left,
    extended1'.left, charRows'.left, names.left, namesExtended.left, texts⟩

/-- All sections may be padded, for those that the image has unpadded are full words. -/
theorem imageBytes_eq_padded (t : KeyTables) : t.imageBytes =
    padded (t.headerBytes t.plan) ++ padded (t.modifiersBytes t.plan) ++ padded t.bitsBytes ++
      padded (charTableBytes t.plan) ++ padded t.baseBytes ++
      padded (extendedBytes t.extended0) ++ padded (extendedBytes t.extended1) ++
      padded t.charRowsBytes ++ padded (namesBytes (t.placedNames.take t.names.length)) ++
      padded (namesBytes (t.placedNames.drop t.names.length)) ++
      (t.names ++ t.namesExtended).flatMap textBytes := by
  rw [padded_eq (t.headerBytes _) (by simp), padded_eq (t.modifiersBytes _) (by simp),
    padded_eq (charTableBytes _) (by simp), padded_eq t.baseBytes (by simp),
    padded_eq (namesBytes (t.placedNames.take _)) (by simp),
    padded_eq (namesBytes (t.placedNames.drop _)) (by simp), imageBytes, placedNames]

/-- The size of an image: the texts follow the sections that were planned. -/
theorem length_imageBytes (t : KeyTables) : t.imageBytes.length =
    t.plan.texts + ((t.names ++ t.namesExtended).flatMap textBytes).length := by
  unfold imageBytes
  simp [plan, Nat.add_assoc]

end KeyTables

end InputBridge
