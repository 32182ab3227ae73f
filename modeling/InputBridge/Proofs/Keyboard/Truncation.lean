-- SUMMARY: A proper part of an image is malformed.
import InputBridge.Proofs.Keyboard.Reading
import Mathlib.Data.List.Infix

/-!
# Images that are cut off

Who reads the beginning of an image finds what the whole image has, or misses some bytes. The
image of tables has something that is read up to its very end, which is the text of the last
name, or the end of the list of names when there is none. So a part of the image is never read
as tables, not even as other ones.
-/

namespace InputBridge

namespace KeyTables

variable {α β : Type} {t : KeyTables} {part image bytes bytes' : List UInt8} {off size count : Nat}
  {entry entry' : List UInt8 → Except TableFault α}

/-! ## What is read of a beginning -/

/-- What is read of the beginning is what is read of the whole, unless bytes are missed. -/
def CutShort (cut whole : Except TableFault α) : Prop :=
  cut = whole ∨ ∃ off length, cut = .error (.outOfBounds off length)

theorem CutShort.refl (whole : Except TableFault α) : CutShort whole whole := .inl rfl

theorem cutShort_outOfBounds (off length : Nat) (whole : Except TableFault α) :
    CutShort (.error (.outOfBounds off length)) whole := .inr ⟨off, length, rfl⟩

theorem CutShort.bind {cut whole : Except TableFault α} {f g : α → Except TableFault β}
    (h : CutShort cut whole) (hnext : ∀ a, CutShort (f a) (g a)) :
    CutShort (cut >>= f) (whole >>= g) := by
  rcases h with rfl | ⟨off, length, rfl⟩
  · cases cut with
    | error fault => exact .refl _
    | ok a => exact hnext a
  · exact cutShort_outOfBounds off length _

theorem CutShort.map {cut whole : Except TableFault α} (f : α → β) (h : CutShort cut whole) :
    CutShort (cut.map f) (whole.map f) := by
  rcases h with rfl | ⟨off, length, rfl⟩
  · exact .refl _
  · exact cutShort_outOfBounds off length _

/-- Bytes that are split off the beginning are split off the whole. -/
theorem splitExactly_of_prefix {xs ys front rest : List α} (h : xs <+: ys)
    (hsplit : splitExactly count xs = some (front, rest)) :
    ∃ rest', splitExactly count ys = some (front, rest') ∧ rest <+: rest' := by
  obtain ⟨more, rfl⟩ := h
  rw [splitExactly_eq] at hsplit
  split at hsplit
  · next hle =>
    cases hsplit
    refine ⟨xs.drop count ++ more, ?_, List.prefix_append _ _⟩
    rw [splitExactly_eq, if_pos (by rw [List.length_append]; omega),
      List.take_append_of_le_length hle, List.drop_append_of_le_length hle]
  · cases hsplit

theorem cutShort_slice (h : part <+: image) (off length : Nat) :
    CutShort (slice part off length) (slice image off length) := by
  rw [slice, slice]
  cases hsplit : splitExactly length (part.drop off) with
  | none => exact cutShort_outOfBounds off length _
  | some split =>
    obtain ⟨rest, hwhole, -⟩ := splitExactly_of_prefix (h.drop off) hsplit
    rw [hwhole]
    exact .refl _

theorem cutShort_readEntries (hentry : ∀ e, CutShort (entry e) (entry' e)) (h : bytes <+: bytes') :
    CutShort (readEntries size entry off bytes) (readEntries size entry' off bytes') := by
  fun_induction readEntries size entry off bytes generalizing bytes' with
  | case1 off => exact cutShort_outOfBounds _ _ _
  | case2 off bytes front rest hsplit hend =>
    obtain ⟨rest', hwhole, -⟩ := splitExactly_of_prefix h hsplit
    rw [readEntries_of_split hwhole, if_pos hend]
    exact .refl _
  | case3 off bytes front rest hsplit hgoes ih =>
    obtain ⟨rest', hwhole, hrest⟩ := splitExactly_of_prefix h hsplit
    rw [readEntries_of_split hwhole, if_neg hgoes]
    exact (hentry front).bind fun first => (ih hrest).bind fun others => .refl _

theorem cutShort_readUnits (h : bytes <+: bytes') :
    CutShort (readUnits off bytes) (readUnits off bytes') := by
  fun_induction readUnits off bytes generalizing bytes' with
  | case1 off low high rest unit =>
    rename_i hend
    obtain ⟨more, rfl⟩ := h
    have hwhole : readUnits off (low :: high :: rest ++ more) = .ok [] := if_pos hend
    -- the zero that ends the text is there, and what is behind it is not looked at
    rw [hwhole]
    exact .refl _
  | case2 off low high rest unit =>
    rename_i hgoes ih
    obtain ⟨more, rfl⟩ := h
    have hwhole : readUnits off (low :: high :: rest ++ more) =
        (readUnits (off + 2) (rest ++ more)).map (unit :: ·) := if_neg hgoes
    rw [hwhole]
    exact (ih (List.prefix_append rest more)).map _
  | case3 => exact cutShort_outOfBounds _ _ _

theorem cutShort_readText (h : part <+: image) (off : Nat) :
    CutShort (readText part off) (readText image off) :=
  (cutShort_readUnits (h.drop off)).bind fun _ => .refl _

theorem cutShort_readNames (h : part <+: image) (off : Nat) :
    CutShort (readNames part off) (readNames image off) :=
  cutShort_readEntries (fun _ => (cutShort_readText h _).map _) (h.drop off)

theorem cutShort_readParts (h : part <+: image) :
    CutShort (readParts part) (readParts image) := by
  -- each list is read from where its pointer says
  have entries : ∀ {α : Type} (size : Nat) (entry : List UInt8 → Except TableFault α) (off : Nat),
      CutShort (readEntries size entry off (part.drop off))
        (readEntries size entry off (image.drop off)) :=
    fun _ _ off => cutShort_readEntries (fun _ => .refl _) (h.drop off)
  unfold readParts
  refine (cutShort_slice h _ _).bind fun header => ?_
  refine (cutShort_slice h _ _).bind fun modifiers => ?_
  refine (entries _ _ _).bind fun modifierBits => ?_
  refine (cutShort_slice h _ _).bind fun charTable => ?_
  dsimp only
  split
  -- both fail in the same way, since the header is the same
  · exact .refl _
  refine (entries _ _ _).bind fun charRows => ?_
  refine (cutShort_slice h _ _).bind fun base => ?_
  refine (entries _ _ _).bind fun extended0 => ?_
  refine (entries _ _ _).bind fun extended1 => ?_
  refine (cutShort_readNames h _).bind fun names => ?_
  exact (cutShort_readNames h _).bind fun namesExtended => .refl _

/-! ## The end of an image -/

/-- Numbers in the beginning are numbers of the whole. -/
theorem numberAt_of_prefix (h : part <+: image) {i width : Nat} (hi : i + width ≤ part.length) :
    numberAt part i width = numberAt image i width := by
  obtain ⟨more, rfl⟩ := h
  rw [numberAt, numberAt, List.drop_append_of_le_length (by omega),
    List.take_append_of_le_length (by rw [List.length_drop]; omega)]

/-- What was found in the beginning has the whole header. -/
theorem Found.header_number (found : t.Found part) (h : part <+: image) {i : Nat}
    (hi : i + 8 ≤ headerSize) : numberAt part i 8 = numberAt image i 8 :=
  numberAt_of_prefix h (Nat.le_trans hi found.header)

/-- The pointers to the texts of names are inside the list that was found. -/
theorem Found.pointer_text (found : t.Found part) (h : part <+: image) {i : Nat}
    (hi : i < (t.names ++ t.namesExtended).length) :
    t.pointer part (.text i) = t.pointer image (.text i) := by
  have names : numberAt part 24 8 + nameEntrySize * (t.names.length + 1) ≤ part.length :=
    le_of_readEntries found.names
  have namesExtended :
      numberAt part 32 8 + nameEntrySize * (t.namesExtended.length + 1) ≤ part.length :=
    le_of_readEntries found.namesExtended
  have hslot : t.slot part (.text i) = t.slot image (.text i) := by
    have namesAt : numberAt part 24 8 = numberAt image 24 8 :=
      found.header_number h (by decide)
    have namesExtendedAt : numberAt part 32 8 = numberAt image 32 8 :=
      found.header_number h (by decide)
    rw [slot, slot, namesAt, namesExtendedAt]
  -- the pointer stands inside the list of names
  have hinside : t.slot part (.text i) + 8 ≤ part.length := by
    rw [List.length_append] at hi
    rw [nameEntrySize] at names namesExtended
    rw [slot, nameEntrySize]
    split <;> omega
  rw [pointer, pointer, numberAt_of_prefix h hinside, hslot]

/-- Where the tables of an image are found in its beginning, the beginning is all of it. -/
theorem length_imageBytes_le_of_found (hsize : t.imageBytes.length ≤ maxImageSize)
    (found : t.Found part) (h : part <+: t.imageBytes) : t.imageBytes.length ≤ part.length := by
  have lead : ∀ p ∈ t.partsInOrder, t.pointer t.imageBytes p = t.place p :=
    fun p hp => (imageBytes_laid t).pointer hsize hp
  cases hcount : (t.names ++ t.namesExtended).length with
  | zero =>
    -- the last that is read is the end of the list of extended names
    have hnames : t.names ++ t.namesExtended = [] := List.eq_nil_of_length_eq_zero hcount
    have hpointer : t.pointer part .namesExtended = t.plan.namesExtended :=
      calc t.pointer part .namesExtended
        _ = t.pointer t.imageBytes .namesExtended := found.header_number (i := 32) h (by decide)
        _ = t.plan.namesExtended := lead .namesExtended (mem_partsInOrder.mpr nofun)
    have ends : t.pointer part .namesExtended + nameEntrySize * (t.namesExtended.length + 1) ≤
        part.length := le_of_readEntries found.namesExtended
    rw [length_imageBytes, hnames]
    rwa [hpointer] at ends
  -- the last that is read is the last text, which ends the image
  | succ i =>
    have hi : i < (t.names ++ t.namesExtended).length := by omega
    have hp : .text i ∈ t.partsInOrder := mem_partsInOrder.mpr fun _ heq => by cases heq; exact hi
    have ends := found.texts hi
    rwa [found.pointer_text h hi, lead _ hp, ← place_text_succ hi, ← hcount, place,
      List.take_length, ← length_imageBytes] at ends

/-- No beginning of an image is read as tables, for some of its bytes are missed. -/
theorem ofImage_take {n : Nat} (wf : t.WellFormed) (h : t.image = .ok image)
    (hn : n < image.length) :
    ∃ off length, ofImage (image.take n) = .error (.malformed (.outOfBounds off length)) := by
  rw [image_eq] at h
  split at h
  · cases h
  · next hsize =>
    obtain rfl : t.imageBytes = image := Except.ok.inj h
    have hsize := Nat.le_of_not_lt hsize
    have cut := cutShort_readParts (List.take_prefix n t.imageBytes)
    rw [readParts_of_laid (imageBytes_laid t) wf hsize] at cut
    -- had the tables been read, nothing would be missing
    rcases cut with hread | ⟨off, length, hread⟩
    · have all := length_imageBytes_le_of_found hsize (found_of_readParts hread)
        (List.take_prefix n _)
      rw [List.length_take] at all
      omega
    · exact ⟨off, length, by rw [ofImage, hread]; rfl⟩

/-- The last byte of an image, which ends the last name, is missed. -/
theorem ofImage_dropLast_smallTables :
    smallTables.WellFormed ∧ smallTables.image = .ok smallTables.imageBytes ∧
      smallTables.imageBytes.length = 856 ∧
      ∃ off length, ofImage (smallTables.imageBytes.take 855) =
        .error (.malformed (.outOfBounds off length)) := by
  have wf : smallTables.WellFormed := by decide +kernel
  have hlength : smallTables.imageBytes.length = 856 := by
    rw [length_imageBytes_eq]
    decide +kernel
  have hsize : smallTables.image = .ok smallTables.imageBytes := by
    rw [image_eq, hlength]
    rfl
  exact ⟨wf, hsize, hlength, ofImage_take wf hsize (by rw [hlength]; decide)⟩

end KeyTables

end InputBridge
