-- SUMMARY: Names of a configuration are read back from the property, group by group.
import InputBridge.Keyboard.Rules
import InputBridge.Proofs.Text.Utf8

/-!
# The rules property there and back

The names of a keyboard configuration are written as five strings, each ended by a zero byte, with
the entries of a list joined by commas. What is written so is read as it was, whatever follows it,
as long as no text has the character that would end it. The list whose only entry is empty is left
out, because it is written as the list without entries is.
-/

namespace InputBridge

/-! ## Splitting -/

theorem splitAtEach_eq_splitOn {α : Type} [BEq α] (sep : α) (l : List α) :
    splitAtEach sep l = l.splitOn sep := by
  induction l with
  | nil => rfl
  | cons x rest ih =>
    rw [splitAtEach, ih, List.splitOn_cons_eq_if_modifyHead]
    cases h : rest.splitOn sep with
    | nil => exact absurd h (List.splitOn_ne_nil sep rest)
    | cons part parts => rfl

/-- Parts without a separator, each of them followed by one, are the first parts. -/
theorem splitAtEach_flatMap {α β : Type} [BEq α] [LawfulBEq α] {sep : α} {write : β → List α}
    {parts : List β} (h : ∀ part ∈ parts, sep ∉ write part) (rest : List α) :
    splitAtEach sep (parts.flatMap (fun part => write part ++ [sep]) ++ rest) =
      parts.map write ++ splitAtEach sep rest := by
  simp only [splitAtEach_eq_splitOn]
  induction parts with
  | nil => rfl
  | cons part parts ih =>
    obtain ⟨hpart, hparts⟩ := List.forall_mem_cons.mp h
    rw [List.flatMap_cons, List.append_assoc, List.append_assoc, List.singleton_append,
      List.splitOn_append_cons_self_of_not_mem hpart, ih hparts, List.map_cons, List.cons_append]

namespace Rules

/-! ## Writing -/

/-- The texts of the property. -/
def texts (r : Rules) : List String :=
  [r.rules, r.model, ",".intercalate r.layouts, ",".intercalate r.variants, r.options]

/-- The property that names the configuration. -/
def toBytes (r : Rules) : List UInt8 := r.texts.flatMap fun text => Text.Utf8.encode text ++ [0]

/-- A list of names that can be told apart when they are joined by commas. -/
structure Listable (names : List String) : Prop where
  noZero : ∀ name ∈ names, '\x00' ∉ name.toList
  noComma : ∀ name ∈ names, ',' ∉ name.toList
  /-- One empty name is written as no name is. -/
  notBlank : names ≠ [""]

/-- A configuration that can be written. -/
structure Writable (r : Rules) : Prop where
  rules : '\x00' ∉ r.rules.toList
  model : '\x00' ∉ r.model.toList
  layouts : Listable r.layouts
  variants : Listable r.variants
  options : '\x00' ∉ r.options.toList

variable {r : Rules} {names : List String}

/-- What is in texts joined by commas is a comma or in one of the texts. -/
theorem mem_toList_intercalate {c : Char} (h : c ∈ (",".intercalate names).toList) :
    c = ',' ∨ ∃ name ∈ names, c ∈ name.toList := by
  induction names with
  | nil => simp at h
  | cons name names ih =>
    by_cases hlast : names = []
    · subst hlast
      exact .inr ⟨name, List.mem_cons_self, by simpa using h⟩
    · rw [String.intercalate_cons_of_ne_nil hlast, String.toList_append, String.toList_append,
        List.mem_append, List.mem_append] at h
      -- the character is in the first name, or it is the comma behind that, or further on
      rcases h with (h | h) | h
      · exact .inr ⟨name, List.mem_cons_self, h⟩
      · exact .inl (by simpa using h)
      · rcases ih h with hcomma | ⟨other, hother, hc⟩
        · exact .inl hcomma
        · exact .inr ⟨other, List.mem_cons_of_mem name hother, hc⟩

theorem Listable.zero_not_mem (h : Listable names) : '\x00' ∉ (",".intercalate names).toList := by
  intro hzero
  rcases mem_toList_intercalate hzero with hcomma | ⟨name, hname, hmem⟩
  · exact absurd hcomma (by decide)
  · exact h.noZero name hname hmem

theorem Writable.zero_not_mem (h : r.Writable) : ∀ text ∈ r.texts, '\x00' ∉ text.toList := by
  simp only [texts, List.forall_mem_cons]
  exact ⟨h.rules, h.model, h.layouts.zero_not_mem, h.variants.zero_not_mem, h.options,
    List.forall_mem_nil _⟩

/-! ## Reading -/

theorem entries_intercalate (h : Listable names) : entries (",".intercalate names) = names := by
  by_cases hnames : names = []
  · subst hnames
    rfl
  -- a name has no comma of its own, so the commas are those that join
  have hparts : ∀ part ∈ names.map String.toList, ',' ∉ part := by
    intro part hpart
    obtain ⟨name, hname, rfl⟩ := List.mem_map.mp hpart
    exact h.noComma name hname
  have split : splitAtEach ',' (",".intercalate names).toList = names.map String.toList := by
    rw [splitAtEach_eq_splitOn, String.toList_intercalate]
    exact List.splitOn_intercalate ',' hparts (by simpa using hnames)
  have hempty : (",".intercalate names).isEmpty = false := by
    by_contra hempty
    -- the empty text is written for the list without names and the one that is left out
    have hblank : ",".intercalate names = "" := by simpa using hempty
    rw [hblank, String.toList_empty, splitAtEach] at split
    obtain ⟨name, rfl, hname⟩ := List.map_eq_singleton_iff.mp split.symm
    obtain rfl := String.toList_eq_nil_iff.mp hname
    exact h.notBlank rfl
  have texts : names.map (String.ofList ∘ String.toList) = names := by simp
  rw [entries, if_neg (by simpa using hempty), split, List.map_map, texts]

theorem group?_eq_some_iff {group : Nat} {layout variant : String} :
    r.group? group = some (layout, variant) ↔
      r.layouts[group]? = some layout ∧ layout ≠ "" ∧ variant = r.variants[group]?.getD "" := by
  unfold group?
  rw [List.getD_eq_getElem?_getD]
  cases r.layouts[group]? with
  | none => simp
  | some name =>
    by_cases hname : name = ""
    -- an empty layout name stands for no group at all
    · subst hname
      refine iff_of_false (by simp) ?_
      rintro ⟨hlayout, hne, -⟩
      exact hne (Option.some.inj hlayout).symm
    · have hfilled : name.isEmpty = false := by simpa using hname
      simp only [hfilled, Bool.false_eq_true, if_false, Option.some.injEq, Prod.mk.injEq]
      constructor
      · rintro ⟨rfl, rfl⟩
        exact ⟨rfl, hname, rfl⟩
      · rintro ⟨rfl, -, rfl⟩
        exact ⟨rfl, rfl⟩

theorem ofBytes_toBytes_append (h : r.Writable) (suffix : List UInt8) :
    ofBytes (r.toBytes ++ suffix) = r := by
  have split : (splitAtEach 0 (r.toBytes ++ suffix)).map Text.Utf8.decodeLenient =
      r.texts ++ (splitAtEach 0 suffix).map Text.Utf8.decodeLenient := by
    rw [toBytes, splitAtEach_flatMap fun text htext =>
      Text.Utf8.zero_not_mem_encode (h.zero_not_mem text htext), List.map_append, List.map_map]
    have texts : Text.Utf8.decodeLenient ∘ Text.Utf8.encode = id :=
      funext Text.Utf8.decodeLenient_encode
    rw [texts, List.map_id]
  simp only [ofBytes, split, texts, List.cons_append, List.getD_cons_zero, List.getD_cons_succ,
    entries_intercalate h.layouts, entries_intercalate h.variants]

/-- A configuration is read as it was written, whatever comes after it, and a group has the layout
at its place if that is there and has a name, with the variant at the same place. -/
theorem ofBytes_toBytes (r : Rules) (h : r.Writable) (suffix : List UInt8) :
    ofBytes (r.toBytes ++ suffix) = r ∧
      ∀ (group : Nat) (layout variant : String),
        (ofBytes (r.toBytes ++ suffix)).group? group = some (layout, variant) ↔
          r.layouts[group]? = some layout ∧ layout ≠ "" ∧
            variant = r.variants[group]?.getD "" := by
  rw [ofBytes_toBytes_append h]
  exact ⟨rfl, fun group layout variant => group?_eq_some_iff⟩

/-- Three groups, the second without a layout, and a variant for the first and the third only. -/
def gapped : Rules where
  rules := "evdev"
  model := "pc105"
  layouts := ["us", "", "дом"]
  variants := ["", "", "фонетика"]

/-- The third group keeps its layout and its variant, though more bytes follow. -/
theorem gapped_read : gapped.Writable ∧
    ofBytes (gapped.toBytes ++ [0xff, 0, 44]) = gapped ∧
    (ofBytes (gapped.toBytes ++ [0xff, 0, 44])).group? 1 = none ∧
    (ofBytes (gapped.toBytes ++ [0xff, 0, 44])).group? 2 = some ("дом", "фонетика") := by
  have writable : gapped.Writable :=
    ⟨by decide, by decide, ⟨by decide, by decide, by decide⟩, ⟨by decide, by decide, by decide⟩,
      by decide⟩
  obtain ⟨hread, hgroup⟩ := ofBytes_toBytes gapped writable [0xff, 0, 44]
  refine ⟨writable, hread, ?_, (hgroup 2 _ _).mpr (by decide)⟩
  -- the second name of the layout is empty
  cases hsecond : (ofBytes (gapped.toBytes ++ [0xff, 0, 44])).group? 1 with
  | none => rfl
  | some names =>
    obtain ⟨hlayout, hname, -⟩ := (hgroup 1 _ _).mp hsecond
    exact absurd (Option.some.inj hlayout).symm hname

end Rules

end InputBridge
