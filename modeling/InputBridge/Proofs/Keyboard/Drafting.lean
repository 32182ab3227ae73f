-- SUMMARY: A draft with its gaps filled is the image that was planned.
import InputBridge.Keyboard.Tables.Draft
import InputBridge.Proofs.Keyboard.Sections

/-!
# A draft comes to the planned image

To fill a gap is to leave everything else as it is. So a draft can be read as if each
gap were filled at once with the place that its part will have; what is written then
is what the plan says. Every part that is referred to begins somewhere, so that no gap
is left.
-/

namespace InputBridge

namespace KeyTables

variable {t : KeyTables}

/-! ## Places of parts -/

/-- All parts, in the order in which they stand in the image. -/
def partsInOrder (t : KeyTables) : List TablePart :=
  [.modifiers, .bits, .charTable, .base, .extended0, .extended1, .charRows, .names,
    .namesExtended] ++ (List.range (t.names ++ t.namesExtended).length).map .text

theorem mem_partsInOrder {p : TablePart} : p ∈ t.partsInOrder ↔
    ∀ i, p = .text i → i < (t.names ++ t.namesExtended).length := by
  cases p <;> simp [partsInOrder]

/-- Where a part stands. The texts stand one after the other. -/
def place (t : KeyTables) : TablePart → Nat
  | .modifiers => t.plan.modifiers
  | .bits => t.plan.bits
  | .charTable => t.plan.charTable
  | .charRows => t.plan.charRows
  | .base => t.plan.base
  | .extended0 => t.plan.extended0
  | .extended1 => t.plan.extended1
  | .names => t.plan.names
  | .namesExtended => t.plan.namesExtended
  | .text i => t.plan.texts + (((t.names ++ t.namesExtended).take i).flatMap textBytes).length

theorem getElem_withTextOffsets {start i : Nat} {names : List KeyName}
    (hi : i < (withTextOffsets start names).length) :
    (withTextOffsets start names)[i].2 =
      start + ((names.take i).flatMap textBytes).length := by
  induction names generalizing start i with
  | nil => cases hi
  | cons n names ih =>
    cases i with
    | zero => rfl
    | succ i =>
      simp only [withTextOffsets, List.length_cons, Nat.add_lt_add_iff_right] at hi
      simp only [withTextOffsets, List.getElem_cons_succ, ih hi, List.take_succ_cons,
        List.flatMap_cons, List.length_append, length_textBytes]
      omega

theorem getElem_placedNames {i : Nat} (hi : i < t.placedNames.length) :
    t.placedNames[i].2 = t.place (.text i) :=
  getElem_withTextOffsets hi

/-! ## Filling gaps -/

namespace Draft

variable {bytes more part : List UInt8} {slot : Nat} {gaps : List (Nat × TablePart)}
  {f : TablePart → Nat}

theorem length_overwrite (h : slot + part.length ≤ bytes.length) :
    (overwrite bytes slot part).length = bytes.length := by
  simp only [overwrite, List.length_append, List.length_take, List.length_drop]
  omega

theorem overwrite_append (h : slot + part.length ≤ bytes.length) :
    overwrite (bytes ++ more) slot part = overwrite bytes slot part ++ more := by
  rw [overwrite, List.take_append_of_le_length (by omega), List.drop_append_of_le_length h,
    ← List.append_assoc, overwrite]

/-- A gap at the end is filled with what belongs there. -/
theorem overwrite_last (h : part.length = more.length) :
    overwrite (bytes ++ more) bytes.length part = bytes ++ part := by
  rw [overwrite, List.take_left, h, ← List.length_append, List.drop_length, List.append_nil]

/-- The bytes with their gaps filled, for parts with such places. -/
def fill (f : TablePart → Nat) (gaps : List (Nat × TablePart)) (bytes : List UInt8) :
    List UInt8 :=
  gaps.foldl (fun bytes g => overwrite bytes g.1 (offset (f g.2))) bytes

theorem length_fill (h : ∀ g ∈ gaps, g.1 + 8 ≤ bytes.length) :
    (fill f gaps bytes).length = bytes.length := by
  induction gaps generalizing bytes with
  | nil => rfl
  | cons g gaps ih =>
    obtain ⟨hg, hgaps⟩ := List.forall_mem_cons.mp h
    have hsame : (overwrite bytes g.1 (offset (f g.2))).length = bytes.length :=
      length_overwrite hg
    rw [← hsame] at hgaps ⊢
    exact ih hgaps

theorem fill_append (h : ∀ g ∈ gaps, g.1 + 8 ≤ bytes.length) :
    fill f gaps (bytes ++ more) = fill f gaps bytes ++ more := by
  induction gaps generalizing bytes with
  | nil => rfl
  | cons g gaps ih =>
    obtain ⟨hg, hgaps⟩ := List.forall_mem_cons.mp h
    have hsame : (overwrite bytes g.1 (offset (f g.2))).length = bytes.length :=
      length_overwrite hg
    calc fill f (g :: gaps) (bytes ++ more)
      _ = fill f gaps (overwrite bytes g.1 (offset (f g.2)) ++ more) :=
        congrArg (fill f gaps) (overwrite_append hg)
      _ = fill f (g :: gaps) bytes ++ more := ih (hsame ▸ hgaps)

/-- If every part that is referred to has begun, every gap is filled. -/
theorem filled_eq {d : Draft}
    (h : ∀ g ∈ d.gaps, d.parts.find? (·.1 == g.2) = some (g.2, f g.2)) :
    d.filled = .ok (fill f d.gaps d.bytes) := by
  obtain ⟨bytes, gaps, parts⟩ := d
  unfold filled
  dsimp only at h ⊢
  induction gaps generalizing bytes with
  | nil => rfl
  | cons g gaps ih =>
    obtain ⟨hg, hgaps⟩ := List.forall_mem_cons.mp h
    rw [List.foldlM_cons, hg]
    exact ih _ hgaps

theorem find?_map_prod {parts : List TablePart} {p : TablePart} (h : p ∈ parts) :
    (parts.map fun p => (p, f p)).find? (·.1 == p) = some (p, f p) := by
  induction parts with
  | nil => cases h
  | cons q parts ih =>
    rw [List.map_cons, List.find?_cons]
    by_cases hq : q = p
    · subst hq
      simp
    · have hp : p ∈ parts := (List.mem_cons.mp h).resolve_left (Ne.symm hq)
      rw [beq_false_of_ne hq]
      exact ih hp

/-! ## What a draft reads as -/

/-- With its gaps filled the draft is this image, and these parts have begun at their places. -/
structure ReadsAs (t : KeyTables) (d : Draft) (image : List UInt8) (parts : List TablePart) :
    Prop where
  image : fill t.place d.gaps d.bytes = image
  parts : d.parts = parts.map fun p => (p, t.place p)
  inside : ∀ g ∈ d.gaps, g.1 + 8 ≤ d.bytes.length
  known : ∀ g ∈ d.gaps, g.2 ∈ t.partsInOrder

namespace ReadsAs

variable {d : Draft} {image pre last : List UInt8} {parts : List TablePart} {p : TablePart}

theorem empty (t : KeyTables) : ReadsAs t {} [] [] := ⟨rfl, rfl, nofun, nofun⟩

theorem length (h : ReadsAs t d image parts) : d.bytes.length = image.length := by
  rw [← h.image, length_fill h.inside]

theorem put (h : ReadsAs t d image parts) (more : List UInt8) :
    ReadsAs t (d.put more) (image ++ more) parts where
  image := by
    rw [← h.image]
    exact fill_append h.inside
  parts := h.parts
  inside g hg := by
    have hinside := h.inside g hg
    simp only [Draft.put, List.length_append]
    omega
  known := h.known

theorem refer (h : ReadsAs t d image parts) (p : TablePart) (hp : p ∈ t.partsInOrder) :
    ReadsAs t (d.refer p) (image ++ offset (t.place p)) parts where
  image := by
    -- the gap that is left last is filled last, after those that were there before
    calc fill t.place (d.gaps ++ [(d.bytes.length, p)]) (d.bytes ++ offset 0)
      _ = overwrite (fill t.place d.gaps (d.bytes ++ offset 0)) d.bytes.length
          (offset (t.place p)) := List.foldl_append ..
      _ = overwrite (image ++ offset 0) image.length (offset (t.place p)) := by
        rw [fill_append h.inside, h.image, h.length]
      _ = image ++ offset (t.place p) := overwrite_last rfl
  parts := h.parts
  inside g hg := by
    simp only [Draft.refer, List.length_append, length_offset]
    rcases List.mem_append.mp hg with hg | hg
    · exact Nat.le_add_right_of_le (h.inside g hg)
    · cases List.mem_singleton.mp hg
      exact Nat.le_refl _
  known g hg := by
    rcases List.mem_append.mp hg with hg | hg
    · exact h.known g hg
    · cases List.mem_singleton.mp hg
      exact hp

theorem align (h : ReadsAs t d image parts) : ReadsAs t d.align (padded image) parts := by
  have hput := h.put (zeros (KeyTables.align image.length - image.length))
  rw [← h.length] at hput
  rw [padded, ← h.length]
  exact hput

theorem note (h : ReadsAs t d image parts) (hp : image.length = t.place p) :
    ReadsAs t (d.note p) image (parts ++ [p]) where
  image := h.image
  parts := by
    rw [List.map_append, ← h.parts, List.map_singleton, ← hp, ← h.length]
    rfl
  inside := h.inside
  known := h.known

theorem header (t : KeyTables) : ReadsAs t (({} : Draft).header t) (t.headerBytes t.plan) [] :=
  empty t |>.refer .modifiers (mem_partsInOrder.mpr nofun)
    |>.refer .charTable (mem_partsInOrder.mpr nofun) |>.put _
    |>.refer .names (mem_partsInOrder.mpr nofun)
    |>.refer .namesExtended (mem_partsInOrder.mpr nofun) |>.put _
    |>.refer .base (mem_partsInOrder.mpr nofun) |>.put _ |>.put _
    |>.refer .extended0 (mem_partsInOrder.mpr nofun)
    |>.refer .extended1 (mem_partsInOrder.mpr nofun) |>.put _ |>.put _ |>.put _ |>.put _ |>.put _

/-- Each entry refers to the text with its number. -/
theorem nameEntries (h : ReadsAs t d image parts) (first : Nat) (placed : List (KeyName × Nat))
    (hplaced : ∀ i (hi : i < placed.length), placed[i].2 = t.place (.text (first + i)))
    (hknown : first + placed.length ≤ (t.names ++ t.namesExtended).length) :
    ReadsAs t (d.nameEntries first (placed.map Prod.fst))
      (image ++ placed.flatMap fun (n, text) => [n.scan] ++ zeros 7 ++ offset text) parts := by
  induction placed generalizing first d image with
  | nil => simpa [Draft.nameEntries] using h
  | cons e placed ih =>
    obtain ⟨n, text⟩ := e
    -- the first of the texts is the one that this entry refers to
    obtain rfl : text = t.place (.text first) := hplaced 0 (by simp)
    rw [List.length_cons] at hknown
    have known : .text first ∈ t.partsInOrder := mem_partsInOrder.mpr fun i hi => by
      cases hi
      omega
    have entry := (h.put ([n.scan] ++ zeros 7)).refer _ known
    have written := ih entry (first + 1) (fun i hi => ?_) (by omega)
    · simpa [Draft.nameEntries, List.append_assoc] using written
    -- the entries behind it refer to the texts after that one
    · have hnext := hplaced (i + 1) (by simpa using hi)
      rw [List.getElem_cons_succ] at hnext
      rw [hnext, Nat.add_assoc, Nat.add_comm 1]

/-- Each text stands behind those in front of it. -/
theorem texts (h : ReadsAs t d image parts) (first : Nat) (names : List KeyName)
    (hplace : ∀ i, i < names.length →
      image.length + ((names.take i).flatMap textBytes).length = t.place (.text (first + i))) :
    ReadsAs t (d.texts first names) (image ++ names.flatMap textBytes)
      (parts ++ (List.range' first names.length).map .text) := by
  induction names generalizing first d image parts with
  | nil => simpa [Draft.texts] using h
  | cons n names ih =>
    -- it begins where the texts so far end
    have begun := h.note (p := .text first) (hplace 0 (by simp))
    have written := ih (begun.put (textBytes n)) (first + 1) (fun i hi => ?_)
    · simpa [Draft.texts, List.append_assoc, List.range'_succ] using written
    · have hnext := hplace (i + 1) (by simpa using hi)
      rw [List.take_succ_cons, List.flatMap_cons, List.length_append] at hnext
      rw [List.length_append, Nat.add_assoc, hnext, Nat.add_assoc, Nat.add_comm 1]

end ReadsAs

/-! ### Parts -/

/-- The draft reads as what is in front of its last part, and that part from `off` on. -/
structure EndsWith (t : KeyTables) (d : Draft) (pre last : List UInt8) (off : Nat)
    (parts : List TablePart) : Prop where
  readsAs : ReadsAs t d (pre ++ last) parts
  length : pre.length = off
  dvd : 8 ∣ off

namespace EndsWith

variable {d : Draft} {pre last : List UInt8} {off : Nat} {parts : List TablePart} {p : TablePart}

theorem header (t : KeyTables) :
    EndsWith t (({} : Draft).header t) [] (t.headerBytes t.plan) 0 [] where
  readsAs := by
    rw [List.nil_append]
    exact ReadsAs.header t
  length := rfl
  dvd := Nat.dvd_zero 8

theorem align (h : EndsWith t d pre last off parts) :
    ReadsAs t d.align (pre ++ padded last) parts := by
  rw [← padded_append (h.length ▸ h.dvd)]
  exact h.readsAs.align

theorem length_align (h : EndsWith t d pre last off parts) :
    (pre ++ padded last).length = off + KeyTables.align last.length := by
  rw [List.length_append, length_padded, h.length]

/-- The next part begins where the last one ends, up to a multiple of eight. -/
theorem next (h : EndsWith t d pre last off parts)
    (hp : off + KeyTables.align last.length = t.place p) {d' : Draft} {bytes : List UInt8}
    (written : ∀ {image : List UInt8} {parts : List TablePart},
      ReadsAs t (d.start p) image parts → ReadsAs t d' (image ++ bytes) parts) :
    EndsWith t d' (pre ++ padded last) bytes (t.place p) (parts ++ [p]) := by
  have hlength : (pre ++ padded last).length = t.place p := h.length_align.trans hp
  exact ⟨written (h.align.note hlength), hlength, hp ▸ Nat.dvd_add h.dvd (dvd_align _)⟩

theorem plain (h : EndsWith t d pre last off parts)
    (hp : off + KeyTables.align last.length = t.place p) (bytes : List UInt8) :
    EndsWith t (d.plain p bytes) (pre ++ padded last) bytes (t.place p) (parts ++ [p]) :=
  h.next hp fun started => started.put bytes

theorem modifiers (h : EndsWith t d pre last off parts)
    (hp : off + KeyTables.align last.length = t.place .modifiers) :
    EndsWith t (d.modifiers t) (pre ++ padded last) (t.modifiersBytes t.plan)
      (t.place .modifiers) (parts ++ [.modifiers]) := by
  refine h.next hp fun started => ?_
  have written := started.refer .bits (mem_partsInOrder.mpr nofun)
    |>.put (word t.maxModifierBits) |>.put t.modifierPlaces.toList |>.put (zeros 6)
  simpa only [Draft.modifiers, modifiersBytes, place, List.append_assoc] using written

theorem charTable (h : EndsWith t d pre last off parts)
    (hp : off + KeyTables.align last.length = t.place .charTable) :
    EndsWith t d.charTable (pre ++ padded last) (charTableBytes t.plan) (t.place .charTable)
      (parts ++ [.charTable]) := by
  refine h.next hp fun started => ?_
  have written := started.refer .charRows (mem_partsInOrder.mpr nofun)
    |>.put [8, UInt8.ofNat charRowSize] |>.put (zeros 6) |>.put (zeros charTableEntrySize)
  simpa only [Draft.charTable, charTableBytes, place, List.append_assoc] using written

theorem names (h : EndsWith t d pre last off parts)
    (hp : off + KeyTables.align last.length = t.place p) (first : Nat)
    (placed : List (KeyName × Nat))
    (hplaced : ∀ i (hi : i < placed.length), placed[i].2 = t.place (.text (first + i)))
    (hknown : first + placed.length ≤ (t.names ++ t.namesExtended).length) :
    EndsWith t (d.names p first (placed.map Prod.fst)) (pre ++ padded last) (namesBytes placed)
      (t.place p) (parts ++ [p]) := by
  refine h.next hp fun started => ?_
  have written := (started.nameEntries first placed hplaced hknown).put (zeros nameEntrySize)
  simpa only [Draft.names, namesBytes, List.append_assoc] using written

end EndsWith

/-- The whole draft. Each part begins at its place because the sizes of those in front of it add
up to it. -/
theorem readsAs_draft (t : KeyTables) : ReadsAs t t.draft t.imageBytes t.partsInOrder := by
  have header := EndsWith.header t
  have modifiers := header.modifiers (by simp [place, plan])
  have bits := modifiers.plain (p := .bits) (by simp [place, plan]) t.bitsBytes
  have charTable := bits.charTable (by simp [place, plan])
  have base := charTable.plain (p := .base) (by simp [place, plan]) t.baseBytes
  have extended0 := base.plain (p := .extended0) (by simp [place, plan])
    (extendedBytes t.extended0)
  have extended1 := extended0.plain (p := .extended1) (by simp [place, plan])
    (extendedBytes t.extended1)
  have charRows := extended1.plain (p := .charRows) (by simp [place, plan]) t.charRowsBytes
  have names := charRows.names (p := .names) (by simp [place, plan]) 0
    (t.placedNames.take t.names.length)
    (fun i hi => by rw [List.getElem_take, getElem_placedNames, Nat.zero_add])
    (by simp [length_placedNames])
  have namesExtended := names.names (p := .namesExtended)
    (by simp [place, plan, length_placedNames]) t.names.length
    (t.placedNames.drop t.names.length)
    (fun i hi => by rw [List.getElem_drop, getElem_placedNames])
    (by simp [length_placedNames])
  -- the texts begin after the last of the sections, rounded up
  have hplan : t.place .namesExtended + KeyTables.align
      (namesBytes (t.placedNames.drop t.names.length)).length = t.plan.texts := by
    simp [place, plan, length_placedNames]
  have texts := namesExtended.align.texts 0 (t.names ++ t.namesExtended)
    fun i _ => by rw [namesExtended.length_align, hplan, Nat.zero_add, place]
  rw [map_fst_take_placedNames, map_fst_drop_placedNames] at texts
  rw [List.nil_append, ← imageBytes_eq_padded] at texts
  rw [partsInOrder, List.range_eq_range']
  exact texts

end Draft

/-- What is written is what is planned. -/
theorem image_eq (t : KeyTables) : t.image =
    if maxImageSize < t.imageBytes.length then .error (.tooLarge t.imageBytes.length)
    else .ok t.imageBytes := by
  have written := Draft.readsAs_draft t
  have hfilled : t.draft.filled = .ok t.imageBytes := by
    rw [← written.image]
    -- each gap refers to a part that is written sooner or later
    refine Draft.filled_eq fun g hg => ?_
    rw [written.parts]
    exact Draft.find?_map_prod (written.known g hg)
  have hresult : t.draft.filled.mapError LayoutError.malformed = .ok t.imageBytes := by
    rw [hfilled]
    rfl
  rw [image, hresult]
  dsimp only [bind, Except.bind]
  split <;> rfl

end KeyTables

end InputBridge
