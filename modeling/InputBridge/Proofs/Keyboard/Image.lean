-- SUMMARY: Tables are read back from their image.
import InputBridge.Proofs.Keyboard.Drafting

/-!
# Images are read back

Each part of an image is read as it was written, and tables whose image is not too
large are the tables of their image.
-/

namespace InputBridge

namespace KeyTables

variable {image : List UInt8} {t : KeyTables}

/-! ## Reading the lists -/

variable {off : Nat}

theorem readBits_at (h : At image off t.bitsBytes) (wf : t.WellFormed) :
    readBits image off = .ok t.modifierBits := by
  have undo : ∀ e ∈ t.modifierBits, Undoes 1 (fun e => .ok (byteAt e 0, byteAt e 1))
      (fun e : UInt8 × UInt8 => [e.1, e.2]) id e :=
    fun e he => ⟨rfl, wf.modifierBits e he, rfl⟩
  have read := h.entries undo
  rwa [List.map_id] at read

theorem readExtended_at {entries : List (UInt8 × UInt16)} (h : At image off (extendedBytes entries))
    (wf : ∀ e ∈ entries, e.1 ≠ 0) : readExtended image off = .ok entries := by
  have undo : ∀ e ∈ entries, Undoes 3 (fun e => .ok (byteAt e 0, wordAt e 2))
      (fun e : UInt8 × UInt16 => [e.1, 0] ++ word e.2) id e := by
    intro e he
    refine ⟨rfl, wf e he, ?_⟩
    have vk : At ([e.1, 0] ++ word e.2) 2 (word e.2) := (At.self _).right
    exact congrArg (fun vk => Except.ok (e.1, vk)) vk.word
  have read := h.entries undo
  rwa [List.map_id] at read

/-- The places of a character row are read one by one. -/
theorem charRow_ofBytes (r : CharRow) : CharRow.ofBytes (CharRow.bytes r) = r := by
  have chars : At (CharRow.bytes r) 2 (r.chars.toList.flatMap word) := (At.self _).right
  have same :
      (Vector.ofFn fun i : Fin 8 => wordAt (CharRow.bytes r) (2 + 2 * i.val)) = r.chars := by
    apply Vector.ext
    intro i hi
    rw [Vector.getElem_ofFn, chars.words (by simpa using hi), Vector.getElem_toList]
  calc CharRow.ofBytes (CharRow.bytes r)
    _ = { vk := r.vk, attributes := r.attributes,
          chars := Vector.ofFn fun i : Fin 8 => wordAt (CharRow.bytes r) (2 + 2 * i.val) } := rfl
    _ = r := by rw [same]

theorem readCharRows_at (h : At image off t.charRowsBytes) (wf : t.WellFormed) :
    readCharRows image off = .ok t.charRows := by
  have undo : ∀ r ∈ t.charRows, Undoes 17 (fun e => .ok (CharRow.ofBytes e)) CharRow.bytes id r :=
    fun r hr => ⟨length_charRowBytes r, wf.charRows r hr, congrArg Except.ok (charRow_ofBytes r)⟩
  have read := h.entries undo
  rwa [List.map_id] at read

/-- A name is read from where its entry says that its text stands. -/
theorem readNames_at {names : List (KeyName × Nat)} (h : At image off (namesBytes names))
    (hsize : image.length ≤ maxImageSize)
    (htexts : ∀ e ∈ names, At image e.2 (textBytes e.1))
    (wf : ∀ e ∈ names, e.1.scan ≠ 0 ∧ '\x00' ∉ e.1.name.toList) :
    readNames image off = .ok (names.map Prod.fst) := by
  apply h.entries
  intro e he
  obtain ⟨hscan, hname⟩ := wf e he
  have text := htexts e he
  have hlt : e.2 < 256 ^ 8 := by
    have := text.lt_length (by simp [textBytes, zeros])
    unfold maxImageSize at hsize
    omega
  have place : At ([e.1.scan] ++ zeros 7 ++ offset e.2) 8 (offset e.2) := (At.self _).right
  refine ⟨rfl, hscan, ?_⟩
  rw [place.number hlt, text.text hname]
  rfl

/-! ## Reading the rest -/

theorem base_of_baseBytes (h : t.base.length = baseSize) :
    ((List.range baseSize).map fun i => wordAt t.baseBytes (2 * i)) = t.base := by
  have words : At t.baseBytes 0 (t.base.flatMap word) := by
    rw [baseBytes_eq h]
    exact At.self _
  apply List.ext_getElem (by simp [h])
  intro i hi hi'
  rw [List.getElem_map, List.getElem_range]
  have read := words.words hi'
  rwa [Nat.zero_add] at read

/-- Offsets of parts of an image that readers accept fit into eight bytes. -/
theorem At.offset_lt {part : List UInt8} (h : At image off part)
    (hsize : image.length ≤ maxImageSize) (hpart : 0 < part.length) : off < 256 ^ 8 := by
  have hlt : off < image.length := h.lt_length (List.ne_nil_of_length_pos hpart)
  unfold maxImageSize at hsize
  omega

/-- The offsets in the header lead to the sections. -/
theorem Laid.header_numbers {header : List UInt8} (laid : t.Laid image)
    (hsize : image.length ≤ maxImageSize) (modifiers : At header 0 (t.headerBytes t.plan)) :
    numberAt header 0 8 = t.plan.modifiers ∧ numberAt header 8 8 = t.plan.charTable ∧
      numberAt header 24 8 = t.plan.names ∧ numberAt header 32 8 = t.plan.namesExtended ∧
      numberAt header 48 8 = t.plan.base ∧ numberAt header 64 8 = t.plan.extended0 ∧
      numberAt header 72 8 = t.plan.extended1 ∧ numberAt header 80 4 = t.localeFlags.toNat := by
  unfold headerBytes at modifiers
  simp only [List.append_assoc] at modifiers
  have charTable := modifiers.after (n := 8) rfl
  -- what is in the gaps is for nobody
  have gap := charTable.after (n := 16) rfl
  have names := gap.after (n := 24) rfl
  have namesExtended := names.after (n := 32) rfl
  have gap := namesExtended.after (n := 40) rfl
  have base := gap.after (n := 48) rfl
  have limit := base.after (n := 56) rfl
  have gap := limit.after (n := 57) rfl
  have extended0 := gap.after (n := 64) rfl
  have extended1 := extended0.after (n := 72) rfl
  have flags := extended1.after (n := 80) rfl
  refine ⟨modifiers.left.number (laid.modifiers.offset_lt hsize ?_),
    charTable.left.number (laid.charTable.offset_lt hsize ?_),
    names.left.number (laid.names.offset_lt hsize ?_),
    namesExtended.left.number (laid.namesExtended.offset_lt hsize ?_),
    base.left.number (laid.base.offset_lt hsize ?_),
    extended0.left.number (laid.extended0.offset_lt hsize ?_),
    extended1.left.number (laid.extended1.offset_lt hsize ?_),
    flags.left.number t.localeFlags.toNat_lt⟩
  all_goals simp [modifiersSize, charTableEntrySize, baseSize, listSize, nameEntrySize,
    extendedEntrySize]

/-- The part with the modifiers is read field by field. -/
theorem Laid.modifiers_fields {modifiers : List UInt8} (laid : t.Laid image)
    (hsize : image.length ≤ maxImageSize) (bits : At modifiers 0 (t.modifiersBytes t.plan)) :
    numberAt modifiers 0 8 = t.plan.bits ∧ wordAt modifiers 8 = t.maxModifierBits ∧
      (Vector.ofFn fun i : Fin 8 => byteAt modifiers (10 + i.val)) = t.modifierPlaces := by
  unfold modifiersBytes at bits
  simp only [List.append_assoc] at bits
  -- the offset of the bits, the limit of the masks, and the places of the masks
  have limit := bits.after (n := 8) rfl
  have places := limit.after (n := 10) rfl
  refine ⟨bits.left.number (laid.bits.offset_lt hsize ?_), limit.left.word, ?_⟩
  · simp [listSize, bitsEntrySize]
  · apply Vector.ext
    intro i hi
    rw [Vector.getElem_ofFn, places.left.byte (by simpa using hi), Vector.getElem_toList]

/-- The first entry of the character table, which is the only one. -/
def charTableEntry (p : Plan) : List UInt8 :=
  offset p.charRows ++ [8, UInt8.ofNat charRowSize] ++ zeros 6

theorem Laid.charTable_fields (laid : t.Laid image) (hsize : image.length ≤ maxImageSize) :
    slice image t.plan.charTable charTableEntrySize = .ok (charTableEntry t.plan) ∧
      numberAt (charTableEntry t.plan) 0 8 = t.plan.charRows ∧
      byteAt (charTableEntry t.plan) 8 = 8 ∧ byteAt (charTableEntry t.plan) 9 = 18 := by
  have entry : At image t.plan.charTable (charTableEntry t.plan) := laid.charTable.left
  have rows : At (charTableEntry t.plan) 0 (offset t.plan.charRows) := (At.self _).left.left
  refine ⟨entry.slice, rows.number (laid.charRows.offset_lt hsize ?_), rfl, rfl⟩
  simp [listSize, charRowSize]

theorem Laid.readNames (laid : t.Laid image) (wf : t.WellFormed)
    (hsize : image.length ≤ maxImageSize) : readNames image t.plan.names = .ok t.names := by
  have names := t.map_fst_take_placedNames
  have read := readNames_at laid.names hsize
    (fun e he => laid.texts.texts e (List.mem_of_mem_take he))
    fun e he => wf.names e.1 (names ▸ List.mem_map_of_mem he)
  rwa [names] at read

theorem Laid.readNamesExtended (laid : t.Laid image) (wf : t.WellFormed)
    (hsize : image.length ≤ maxImageSize) :
    KeyTables.readNames image t.plan.namesExtended = .ok t.namesExtended := by
  have names := t.map_fst_drop_placedNames
  have read := readNames_at laid.namesExtended hsize
    (fun e he => laid.texts.texts e (List.mem_of_mem_drop he))
    fun e he => wf.namesExtended e.1 (names ▸ List.mem_map_of_mem he)
  rwa [names] at read

/-! ## Round trip -/

theorem readParts_of_laid (laid : t.Laid image) (wf : t.WellFormed)
    (hsize : image.length ≤ maxImageSize) : readParts image = .ok t := by
  have header := laid.header.slice
  rw [length_headerBytes] at header
  have modifiers := laid.modifiers.slice
  rw [length_modifiersBytes] at modifiers
  have base := laid.base.slice
  rw [length_baseBytes] at base
  obtain ⟨charTable, rowsAt, columns, rowSize⟩ := laid.charTable_fields hsize
  obtain ⟨modifiersAt, charTableAt, namesAt, namesExtendedAt, baseAt, extended0At, extended1At,
    flags⟩ := laid.header_numbers hsize (At.self _)
  obtain ⟨bitsAt, maxBits, places⟩ := laid.modifiers_fields hsize (At.self _)
  have bits := readBits_at laid.bits wf
  have charRows := readCharRows_at laid.charRows wf
  have extended0 := readExtended_at laid.extended0 wf.extended0
  have extended1 := readExtended_at laid.extended1 wf.extended1
  have names := laid.readNames wf hsize
  have namesExtended := laid.readNamesExtended wf hsize
  -- every part that is read is known now, so the reader can be run
  unfold readParts
  simp only [header, modifiersAt, modifiers, bitsAt, bits, charTableAt, charTable, columns, rowSize,
    rowsAt, charRows, baseAt, base, extended0At, extended0, extended1At, extended1, namesAt, names,
    namesExtendedAt, namesExtended, flags, maxBits, places, bind, Except.bind]
  rw [if_neg (by decide), base_of_baseBytes wf.base, UInt32.ofNat_toNat]
  rfl

/-- Whoever reads the image of tables has the tables. -/
theorem ofImage_image (wf : t.WellFormed) (h : t.image = .ok image) : ofImage image = .ok t := by
  rw [image_eq] at h
  split at h
  · cases h
  · next hsize =>
    obtain rfl : t.imageBytes = image := Except.ok.inj h
    rw [ofImage, readParts_of_laid (imageBytes_laid t) wf (Nat.le_of_not_lt hsize)]
    rfl

/-! ## Checking well-formedness -/

/-- No name ends the list of names, nor its own text early. -/
def namesKept (names : List KeyName) : Bool :=
  names.all fun n => n.scan != 0 && !n.name.toList.contains '\x00'

theorem namesKept_iff {names : List KeyName} :
    namesKept names = true ↔ ∀ n ∈ names, n.scan ≠ 0 ∧ '\x00' ∉ n.name.toList := by
  simp [namesKept]

instance (t : KeyTables) : Decidable t.WellFormed :=
  decidable_of_iff
    ((t.modifierBits.all (·.1 != 0) ∧ t.charRows.all (·.vk != 0) ∧ t.base.length = baseSize) ∧
      (t.extended0.all (·.1 != 0) ∧ t.extended1.all (·.1 != 0)) ∧
      namesKept t.names ∧ namesKept t.namesExtended) <| by
    rw [namesKept_iff, namesKept_iff]
    simp only [List.all_eq_true, bne_iff_ne]
    constructor
    · rintro ⟨⟨hbits, hrows, hbase⟩, ⟨hextended0, hextended1⟩, hnames, hnamesExtended⟩
      exact ⟨hbits, hrows, hbase, hextended0, hextended1, hnames, hnamesExtended⟩
    · rintro ⟨hbits, hrows, hbase, hextended0, hextended1, hnames, hnamesExtended⟩
      exact ⟨⟨hbits, hrows, hbase⟩, ⟨hextended0, hextended1⟩, hnames, hnamesExtended⟩

/-- Tables with something in every list, and a name outside the basic plane. -/
def smallTables : KeyTables where
  localeFlags := altGrFlag
  modifierBits := [(0x10, 1), (0x11, 2)]
  maxModifierBits := 3
  modifierPlaces := #v[0, 2, 1, 3, 4, 6, 5, 7]
  charRows := [⟨0x51, CharRow.capsShifts, #v[0x71, 0x51, 0, 0, 0x40, 0, 0, 0]⟩]
  extended0 := [(0x1d, 0xa3)]
  extended1 := [(0x1d, 0x13)]
  names := [⟨0x10, "q"⟩, ⟨0x11, "🎹 key"⟩]
  namesExtended := [⟨0x1d, "Right Ctrl"⟩]

theorem smallTables_read_back : smallTables.WellFormed ∧
    smallTables.image = .ok smallTables.imageBytes ∧
    ofImage smallTables.imageBytes = .ok smallTables := by
  have wf : smallTables.WellFormed := by decide +kernel
  have hsize : smallTables.image = .ok smallTables.imageBytes := by
    have small : ¬maxImageSize < smallTables.imageBytes.length := by
      rw [length_imageBytes]
      decide +kernel
    rw [image_eq, if_neg small]
  exact ⟨wf, hsize, ofImage_image wf hsize⟩

end KeyTables

end InputBridge
