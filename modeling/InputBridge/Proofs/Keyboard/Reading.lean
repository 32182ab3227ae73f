-- SUMMARY: Whatever bytes are read as an image, the tables are well-formed and have an image again.
import InputBridge.Proofs.Faults
import InputBridge.Proofs.Keyboard.Pointers

/-!
# Whatever is read is well-formed

The bytes that are read may be anything: parts may overlap, or be one and the same. Even so the
tables that come of them are well-formed, for a list ends with the first entry that looks like
its end. No list is longer than the bytes have room for, and the tables have an image of their
own, from which they are read again, unless it is too large.
-/

namespace InputBridge

namespace KeyTables

variable {α : Type} {t : KeyTables} {image bytes part : List UInt8} {off size : Nat}
  {entry : List UInt8 → Except TableFault α} {xs : List α}

/-! ## Parts -/

theorem splitExactly_eq (count : Nat) (xs : List α) : splitExactly count xs =
    if count ≤ xs.length then some (xs.take count, xs.drop count) else none := by
  induction count generalizing xs with
  | zero => simp [splitExactly]
  | succ count ih =>
    cases xs with
    | nil => simp [splitExactly]
    | cons x xs =>
      rw [splitExactly, ih]
      by_cases h : count ≤ xs.length <;> simp [h]

theorem slice_eq_ok (h : slice image off size = .ok part) :
    part = (image.drop off).take size ∧ (0 < size → off + size ≤ image.length) := by
  rw [slice, splitExactly_eq, List.length_drop] at h
  split at h
  · next hsplit =>
    split at hsplit
    · next hle =>
      cases hsplit
      cases h
      exact ⟨rfl, fun hpos => by omega⟩
    · cases hsplit
  · cases h

/-- A number of a part is one of the image. -/
theorem numberAt_take_drop {i width : Nat} (h : i + width ≤ size) :
    numberAt ((image.drop off).take size) i width = numberAt image (off + i) width := by
  rw [numberAt, numberAt, List.drop_take, List.take_take, List.drop_drop,
    Nat.min_eq_left (by omega)]

/-! ## Lists -/

/-- The entries that were read stand one after the other, and there is room for one more, which
ends the list. -/
theorem readEntries_eq_ok (h : readEntries size entry off bytes = .ok xs) :
    (size + 1) * (xs.length + 1) ≤ bytes.length ∧ ∀ i (hi : i < xs.length),
      byteAt ((bytes.drop ((size + 1) * i)).take (size + 1)) 0 ≠ 0 ∧
        entry ((bytes.drop ((size + 1) * i)).take (size + 1)) = .ok xs[i] := by
  fun_induction readEntries size entry off bytes generalizing xs with
  | case1 => cases h
  | case2 off bytes part rest hsplit hend =>
    rw [splitExactly_eq] at hsplit
    split at hsplit
    -- the list has ended, and its last entry was there
    · next hle =>
      cases h
      exact ⟨by simpa using hle, nofun⟩
    · cases hsplit
  | case3 off bytes part rest hsplit hgoes ih =>
    rw [splitExactly_eq] at hsplit
    split at hsplit
    · next hle =>
      cases hsplit
      obtain ⟨first, hfirst, h⟩ := of_bind_eq_ok h
      obtain ⟨others, hothers, h⟩ := of_bind_eq_ok h
      cases h
      obtain ⟨room, stand⟩ := ih hothers
      rw [List.length_drop] at room
      -- the first entry and the others are all there is, one behind the other
      refine ⟨?_, fun i hi => ?_⟩
      · rw [List.length_cons, Nat.mul_succ]
        omega
      · cases i with
        | zero => exact ⟨hgoes, hfirst⟩
        | succ i =>
          have hplace : (bytes.drop (size + 1)).drop ((size + 1) * i) =
              bytes.drop ((size + 1) * (i + 1)) := by
            rw [List.drop_drop, Nat.mul_succ, Nat.add_comm]
          rw [← hplace]
          exact stand i (Nat.lt_of_succ_lt_succ hi)
    · cases hsplit

/-- A list that was read, and the entry that ends it, are inside the image. -/
theorem le_of_readEntries (h : readEntries size entry off (image.drop off) = .ok xs) :
    off + (size + 1) * (xs.length + 1) ≤ image.length := by
  have room := (readEntries_eq_ok h).1
  have hpos : 0 < (size + 1) * (xs.length + 1) := Nat.mul_pos (Nat.succ_pos _) (Nat.succ_pos _)
  rw [List.length_drop] at room
  omega

/-- No entry that was read looks like the end of the list. -/
theorem key_ne_zero_of_readEntries (h : readEntries size entry off bytes = .ok xs) {key : α → UInt8}
    (hkey : ∀ part x, entry part = .ok x → key x = byteAt part 0) : ∀ x ∈ xs, key x ≠ 0 := by
  intro x hx
  obtain ⟨i, hi, rfl⟩ := List.getElem_of_mem hx
  obtain ⟨hfirst, hentry⟩ := (readEntries_eq_ok h).2 i hi
  rw [hkey _ _ hentry]
  exact hfirst

/-! ## Texts -/

theorem readUnits_eq_ok {units : List UInt16} (h : readUnits off bytes = .ok units) :
    2 * (units.length + 1) ≤ bytes.length ∧ ∀ u ∈ units, u ≠ 0 := by
  fun_induction readUnits off bytes generalizing units with
  | case1 =>
    cases h
    exact ⟨by simp, nofun⟩
  | case2 off low high rest unit =>
    rename_i hgoes ih
    -- the rest is read only if the unit does not end the text
    cases hrest : readUnits (off + 2) rest with
    | error fault =>
      rw [hrest] at h
      cases h
    | ok others =>
      rw [hrest] at h
      cases h
      obtain ⟨room, nonzero⟩ := ih hrest
      refine ⟨?_, List.forall_mem_cons.mpr ⟨hgoes, nonzero⟩⟩
      simp only [List.length_cons]
      omega
  | case3 => cases h

theorem readText_eq_ok {s : String} (h : readText image off = .ok s) :
    off + 2 * ((Text.Utf16.encode s).length + 1) ≤ image.length ∧ '\x00' ∉ s.toList := by
  obtain ⟨units, hunits, h⟩ := of_bind_eq_ok h
  split at h
  · next s' hdecode =>
    cases h
    obtain ⟨room, nonzero⟩ := readUnits_eq_ok hunits
    rw [List.length_drop] at room
    rw [← Text.Utf16.encode_of_decode? hdecode] at room nonzero
    exact ⟨by omega, Text.Utf16.not_mem_of_encode nonzero⟩
  · cases h

/-- Every name has a key and a text without a zero, and its text is inside the image, where its
entry says. -/
theorem readNames_eq_ok {names : List KeyName} (h : readNames image off = .ok names) {i : Nat}
    (hi : i < names.length) :
    (names[i].scan ≠ 0 ∧ '\x00' ∉ names[i].name.toList) ∧
      numberAt image (off + nameEntrySize * i + 8) 8 + (textBytes names[i]).length ≤
        image.length := by
  obtain ⟨hfirst, hentry⟩ := (readEntries_eq_ok h).2 i hi
  rw [List.drop_drop, numberAt_take_drop (by decide)] at hentry
  -- an entry is read only if its text is
  cases htext : readText image (numberAt image (off + (15 + 1) * i + 8) 8) with
  | error fault =>
    rw [htext] at hentry
    cases hentry
  | ok s =>
    rw [htext] at hentry
    obtain ⟨room, nonzero⟩ := readText_eq_ok htext
    rw [← Except.ok.inj hentry]
    refine ⟨⟨?_, nonzero⟩, ?_⟩
    · rwa [List.drop_drop] at hfirst
    · rw [length_textBytes]
      exact room

/-! ## All parts -/

/-- What stands where an image says that the parts of tables are. -/
structure Found (t : KeyTables) (image : List UInt8) : Prop where
  header : headerSize ≤ image.length
  bits : readBits image (t.pointer image .bits) = .ok t.modifierBits
  charRows : readCharRows image (t.pointer image .charRows) = .ok t.charRows
  base : t.base.length = baseSize ∧ 2 * baseSize ≤ image.length
  extended0 : readExtended image (t.pointer image .extended0) = .ok t.extended0
  extended1 : readExtended image (t.pointer image .extended1) = .ok t.extended1
  names : readNames image (t.pointer image .names) = .ok t.names
  namesExtended : readNames image (t.pointer image .namesExtended) = .ok t.namesExtended

theorem found_of_readParts (h : readParts image = .ok t) : t.Found image := by
  unfold readParts at h
  -- nothing was missed, so every part was read
  obtain ⟨header, hheader, h⟩ := of_bind_eq_ok h
  obtain ⟨modifiers, hmodifiers, h⟩ := of_bind_eq_ok h
  obtain ⟨modifierBits, hbits, h⟩ := of_bind_eq_ok h
  obtain ⟨charTable, hcharTable, h⟩ := of_bind_eq_ok h
  dsimp only at h
  split at h
  · cases h
  obtain ⟨charRows, hcharRows, h⟩ := of_bind_eq_ok h
  obtain ⟨base, hbase, h⟩ := of_bind_eq_ok h
  obtain ⟨extended0, hextended0, h⟩ := of_bind_eq_ok h
  obtain ⟨extended1, hextended1, h⟩ := of_bind_eq_ok h
  obtain ⟨names, hnames, h⟩ := of_bind_eq_ok h
  obtain ⟨namesExtended, hnamesExtended, h⟩ := of_bind_eq_ok h
  obtain ⟨rfl, hheaderLe⟩ := slice_eq_ok hheader
  obtain ⟨rfl, -⟩ := slice_eq_ok hmodifiers
  obtain ⟨rfl, -⟩ := slice_eq_ok hcharTable
  obtain ⟨rfl, hbaseLe⟩ := slice_eq_ok hbase
  cases h
  -- the pointers in the parts are pointers of the image
  have header : ∀ i, i + 8 ≤ headerSize →
      numberAt ((image.drop 0).take headerSize) i 8 = numberAt image i 8 := by
    intro i hi
    rw [numberAt_take_drop hi, Nat.zero_add]
  rw [header _ (by decide), numberAt_take_drop (by decide)] at hbits hcharRows
  rw [header _ (by decide)] at hextended0 hextended1 hnames hnamesExtended hbaseLe
  exact {
    header := by simpa using hheaderLe (by decide)
    bits := hbits
    charRows := hcharRows
    base := ⟨by simp, Nat.le_trans (Nat.le_add_left _ _) (hbaseLe (by decide))⟩
    extended0 := hextended0
    extended1 := hextended1
    names := hnames
    namesExtended := hnamesExtended }

/-- No entry looks like the end of its list, for it would have ended the list. -/
theorem Found.wellFormed (found : t.Found image) : t.WellFormed where
  modifierBits := key_ne_zero_of_readEntries found.bits fun part x h => by cases h; rfl
  charRows := key_ne_zero_of_readEntries found.charRows fun part x h => by cases h; rfl
  base := found.base.1
  extended0 := key_ne_zero_of_readEntries found.extended0 fun part x h => by cases h; rfl
  extended1 := key_ne_zero_of_readEntries found.extended1 fun part x h => by cases h; rfl
  names n hn := by
    obtain ⟨i, hi, rfl⟩ := List.getElem_of_mem hn
    exact (readNames_eq_ok found.names hi).1
  namesExtended n hn := by
    obtain ⟨i, hi, rfl⟩ := List.getElem_of_mem hn
    exact (readNames_eq_ok found.namesExtended hi).1

/-- Every text is inside the image, where the image says. -/
theorem Found.texts (found : t.Found image) {i : Nat}
    (hi : i < (t.names ++ t.namesExtended).length) :
    t.pointer image (.text i) + (textBytes (t.names ++ t.namesExtended)[i]).length ≤
      image.length := by
  rw [pointer, slot]
  split
  · next hfirst =>
    rw [List.getElem_append_left hfirst]
    exact (readNames_eq_ok found.names hfirst).2
  · next hsecond =>
    rw [List.length_append] at hi
    rw [List.getElem_append_right (Nat.le_of_not_lt hsecond)]
    exact (readNames_eq_ok found.namesExtended (by omega)).2

/-! ## What is read can be written -/

/-- Tables whose lists can be told from their ends are read from their image. -/
theorem WellFormed.read_back_or_tooLarge (wf : t.WellFormed) :
    (∃ size, maxImageSize < size ∧ t.image = .error (.tooLarge size)) ∨
      ∃ image, t.image = .ok image ∧ ofImage image = .ok t := by
  rw [image_eq]
  by_cases hsize : maxImageSize < t.imageBytes.length
  · exact .inl ⟨_, hsize, if_pos hsize⟩
  · refine .inr ⟨t.imageBytes, if_neg hsize, ?_⟩
    rw [ofImage, readParts_of_laid (imageBytes_laid t) wf (Nat.le_of_not_lt hsize)]
    rfl

/-- A list is no longer than the image has room for. -/
theorem length_le_div (h : readEntries size entry off (image.drop off) = .ok xs) :
    xs.length ≤ image.length / (size + 1) := by
  have room : off + (size + 1) * (xs.length + 1) ≤ image.length := le_of_readEntries h
  rw [Nat.le_div_iff_mul_le (Nat.succ_pos size), Nat.mul_comm]
  calc (size + 1) * xs.length
    _ ≤ (size + 1) * (xs.length + 1) := Nat.mul_le_mul_left _ (Nat.le_succ _)
    _ ≤ image.length := Nat.le_trans (Nat.le_add_left _ _) room

theorem ofImage_eq_ok (h : ofImage image = .ok t) : readParts image = .ok t := by
  rw [ofImage] at h
  cases hread : readParts image with
  | error fault =>
    rw [hread] at h
    cases h
  | ok t' =>
    rw [hread] at h
    exact congrArg Except.ok (Except.ok.inj h)

/-- Whatever bytes are read, the tables are well-formed, no list of theirs is longer than the
bytes have room for, and their own image is read as the same tables. -/
theorem wellFormed_of_ofImage (h : ofImage image = .ok t) :
    t.WellFormed ∧
    (t.modifierBits.length ≤ image.length / bitsEntrySize ∧
      t.charRows.length ≤ image.length / charRowSize ∧ t.base.length ≤ image.length / 2 ∧
      t.extended0.length ≤ image.length / extendedEntrySize ∧
      t.extended1.length ≤ image.length / extendedEntrySize ∧
      t.names.length ≤ image.length / nameEntrySize ∧
      t.namesExtended.length ≤ image.length / nameEntrySize) ∧
    ((∃ size, maxImageSize < size ∧ t.image = .error (.tooLarge size)) ∨
      ∃ image', t.image = .ok image' ∧ ofImage image' = .ok t) := by
  have found := found_of_readParts (ofImage_eq_ok h)
  -- the lists of fixed size have their length in the image, and the others end in it
  have base : t.base.length ≤ image.length / 2 := by
    obtain ⟨hlength, hroom⟩ := found.base
    omega
  exact ⟨found.wellFormed,
    ⟨length_le_div found.bits, length_le_div found.charRows, base, length_le_div found.extended0,
      length_le_div found.extended1, length_le_div found.names,
      length_le_div found.namesExtended⟩,
    found.wellFormed.read_back_or_tooLarge⟩

/-- Bytes in which most parts are at the very beginning. The pointer to the character table is an
entry of both lists of extended keys, too. -/
def sharedImage : List UInt8 :=
  zeros 8 ++ offset 104 ++ zeros 48 ++ offset 8 ++ offset 8 ++ zeros 32 ++ [8, 18] ++ zeros 400

def sharedTables : KeyTables where
  maxModifierBits := 104
  base := [0, 0, 0, 0, 104] ++ List.replicate 27 0 ++ [8, 0, 0, 0, 8] ++ List.replicate 19 0
    ++ [4616] ++ List.replicate 199 0
  extended0 := [(104, 0)]
  extended1 := [(104, 0)]

set_option maxRecDepth 4000 in
theorem ofImage_sharedImage : ofImage sharedImage = .ok sharedTables := by cbv

theorem wellFormed_of_sharedImage : ofImage sharedImage = .ok sharedTables ∧
    sharedTables.WellFormed ∧
    sharedTables.extended0.length ≤ sharedImage.length / extendedEntrySize ∧
    ∃ image, sharedTables.image = .ok image ∧ ofImage image = .ok sharedTables := by
  have read := ofImage_sharedImage
  obtain ⟨wf, ⟨-, -, -, extended0, -⟩, again⟩ := wellFormed_of_ofImage read
  refine ⟨read, wf, extended0, again.resolve_left ?_⟩
  rintro ⟨size, -, hlarge⟩
  have small : ¬maxImageSize < sharedTables.imageBytes.length := by
    rw [length_imageBytes_eq]
    decide
  rw [image_eq, if_neg small] at hlarge
  cases hlarge

end KeyTables

end InputBridge
