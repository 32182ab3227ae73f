-- SUMMARY: Layouts are found by their handles exactly if their ids fit into them.
import InputBridge.Proofs.Keyboard.Building
import Mathlib.Data.List.Nodup

/-!
# Telling layouts apart

A layout is found by the high word of its handle. The first layout of a language has the
language there, and every other one an id from a counter that no set of layouts starts
anew. A handle has room for twelve bits of an id, and the counter has sixteen: the layouts
of a set are told apart exactly if few enough ids were drawn for them, and the counter did
not come round to zero meanwhile.
-/

namespace InputBridge

/-! ## Languages -/

theorem LangId.toNat_ofLayoutCode_lt (code : String) : (ofLayoutCode code).toNat < 0xf000 := by
  have entries : ∀ e ∈ twoLetterCodes ++ longerCodes, (make e.2.1 e.2.2).toNat < 0xf000 := by
    decide +kernel
  unfold ofLayoutCode
  split
  · next primary variety hcode =>
    obtain ⟨before, after, hsplit, -⟩ := List.lookup_eq_some_iff.mp hcode
    exact entries (code, primary, variety) (by simp [hsplit])
  · decide

/-! ## High words -/

namespace Layout

variable {l : Layout}

/-- Whether an id was drawn from the counter for the layout. -/
def drawsId (l : Layout) : Bool := l.index != 0

theorem drawsId_iff : l.drawsId = true ↔ l.index ≠ 0 := bne_iff_ne

theorem highWord_of_layoutId_eq_zero (h : l.layoutId = 0) : l.highWord = l.lang := by
  rw [highWord, if_pos h]

/-- Of the id the high word keeps the twelve low bits. -/
theorem toNat_highWord (h : l.layoutId ≠ 0) :
    l.highWord.toNat = 0xf000 + l.layoutId.toNat % 4096 := by
  have ones : ∀ q < 16, 15 ||| q = 15 := by decide
  have hlt := l.layoutId.toNat_lt
  have hdiv : (0xf000 ||| l.layoutId.toNat) / 2 ^ 12 = 15 := by
    rw [Nat.or_div_two_pow]
    exact ones (l.layoutId.toNat / 2 ^ 12) (by omega)
  have hmod : (0xf000 ||| l.layoutId.toNat) % 2 ^ 12 = l.layoutId.toNat % 2 ^ 12 := by
    rw [Nat.or_mod_two_pow]
    exact Nat.zero_or _
  have hsplit := Nat.div_add_mod (0xf000 ||| l.layoutId.toNat) (2 ^ 12)
  rw [hdiv, hmod] at hsplit
  rw [highWord, if_neg h, UInt16.toNat_or]
  exact hsplit.symm

theorem hkl_shiftRight (l : Layout) : l.hkl >>> 16 = l.highWord.toUInt32 := by
  have hhigh := l.highWord.toNat_lt
  have hlang := l.lang.toNat_lt
  apply UInt32.toNat_inj.mp
  rw [hkl, UInt32.toNat_shiftRight, UInt32.toNat_or, UInt32.toNat_shiftLeft,
    UInt16.toNat_toUInt32, UInt16.toNat_toUInt32]
  change ((l.highWord.toNat <<< 16) % 2 ^ 32 ||| l.lang.toNat) >>> 16 = _
  rw [Nat.shiftLeft_eq, Nat.shiftRight_eq_div_pow, Nat.or_div_two_pow,
    Nat.mod_eq_of_lt (by omega), Nat.mul_div_cancel _ (by decide), Nat.div_eq_of_lt hlang,
    Nat.or_zero]

end Layout

namespace Layouts

variable {all : List Layout} {first : UInt16} {keymap : Keymap} {rules : Rules}

/-- Being found by one's own handle, with handles that differ, is having a high word of
one's own. -/
theorem findByHkl_eq_some_self_iff (s : Layouts) :
    ((s.all.map Layout.hkl).Nodup ∧ ∀ l ∈ s.all, s.findByHkl l.hkl = some l) ↔
      (s.all.map Layout.highWord).Nodup := by
  have same : ∀ l l' : Layout, l.hkl >>> 16 = l'.hkl >>> 16 ↔ l.highWord = l'.highWord := by
    intro l l'
    rw [Layout.hkl_shiftRight, Layout.hkl_shiftRight, UInt16.toUInt32_inj]
  constructor
  · rintro ⟨nodup, found⟩
    rw [List.nodup_map_iff_inj_on nodup.of_map]
    intro l hl l' hl' heq
    have hfound := found l hl
    rw [findByHkl, (same l l').mpr heq] at hfound
    exact Option.some.inj (hfound.symm.trans (found l' hl'))
  · intro nodup
    have distinct : s.all.Nodup := nodup.of_map
    rw [List.nodup_map_iff_inj_on distinct] at nodup ⊢
    refine ⟨fun l hl l' hl' heq => nodup l hl l' hl' ((same l l').mp (by rw [heq])), ?_⟩
    intro l hl
    cases hfound : s.findByHkl l.hkl with
    | none =>
      have hnone := List.find?_eq_none.mp hfound l hl
      simp at hnone
    | some l' =>
      have heq : l'.hkl >>> 16 = l.hkl >>> 16 := by simpa using List.find?_some hfound
      rw [nodup l' (List.mem_of_find?_eq_some hfound) l hl ((same l' l).mp heq)]

/-! ## Ids -/

/-- How many ids were drawn from the counter for the layouts. -/
def idsDrawn (all : List Layout) : Nat := all.countP Layout.drawsId

/-- The layouts have the ids that the counter gives from `first` on. -/
inductive Numbered (first : UInt16) : List Layout → Prop where
  | nil : Numbered first []
  | snoc {all : List Layout} {l : Layout} : Numbered first all → l.lang.toNat < 0xf000 →
      l.index = UInt16.ofNat (all.countP (·.lang == l.lang)) →
      l.layoutId = (if l.index = 0 then 0 else first + UInt16.ofNat (idsDrawn all)) →
      Numbered first (all ++ [l])

theorem idsDrawn_snoc (all : List Layout) (l : Layout) :
    idsDrawn (all ++ [l]) = idsDrawn all + if l.index = 0 then 0 else 1 := by
  rw [idsDrawn, idsDrawn, List.countP_append, List.countP_singleton, Layout.drawsId]
  by_cases h : l.index = 0 <;> simp [h]

theorem Numbered.buildGroups {groups : List UInt32} {built : List Layout} {nextId next : UInt16}
    (h : Numbered first built) (hnext : nextId = first + UInt16.ofNat (idsDrawn built))
    (hbuild : buildGroups keymap rules groups built nextId = (.ok all, next)) :
    Numbered first all := by
  induction groups generalizing built nextId with
  | nil =>
    cases hbuild
    exact h
  | cons group groups ih =>
    unfold Layouts.buildGroups at hbuild
    split at hbuild
    · next l nextId' hl =>
      obtain ⟨code, hcode⟩ := (Layout.built_of_build hl).lang
      have hlayout := Layout.built_of_build hl
      refine ih (h.snoc ?_ hlayout.index ?_) ?_ hbuild
      · rw [hcode]
        exact LangId.toNat_ofLayoutCode_lt code
      · rw [hlayout.layoutId, hnext]
      · rw [idsDrawn_snoc, hlayout.next, hnext]
        split
        · rfl
        · rw [UInt16.ofNat_add, UInt16.add_assoc]
          rfl
    · cases hbuild

theorem numbered_of_rebuild {s : Layouts} {next : UInt16}
    (h : rebuild keymap rules first = (.ok (), s, next)) : Numbered first s.all := by
  unfold rebuild at h
  dsimp only at h
  split at h
  · next all nextId hbuild =>
    cases h
    exact Numbered.nil.buildGroups (UInt16.add_zero first).symm hbuild
  · cases h

/-! ## Layouts with ids -/

/-- The layouts that an id was drawn for have the ids in order. -/
theorem Numbered.map_layoutId (h : Numbered first all) :
    (all.filter Layout.drawsId).map (·.layoutId) =
      (List.range (idsDrawn all)).map fun i => first + UInt16.ofNat i := by
  induction h with
  | nil => rfl
  | @snoc all l _ _ _ hid ih =>
    rw [List.filter_append, List.map_append, ih, idsDrawn_snoc]
    by_cases hindex : l.index = 0
    · simp [Layout.drawsId, hindex]
    · rw [if_neg hindex] at hid
      have hdraws : l.drawsId = true := Layout.drawsId_iff.mpr hindex
      rw [List.filter_cons_of_pos hdraws, if_neg hindex, List.range_succ, List.map_append]
      simp [hid]

theorem Numbered.mem_drawn {m : Layout} (h : Numbered first all) (hm : m ∈ all)
    (hindex : m.index ≠ 0) : ∃ i < idsDrawn all, m.layoutId = first + UInt16.ofNat i := by
  have hmem : m.layoutId ∈ (all.filter Layout.drawsId).map (·.layoutId) :=
    List.mem_map_of_mem (List.mem_filter.mpr ⟨hm, Layout.drawsId_iff.mpr hindex⟩)
  rw [h.map_layoutId] at hmem
  obtain ⟨i, hi, heq⟩ := List.mem_map.mp hmem
  exact ⟨i, List.mem_range.mp hi, heq.symm⟩

theorem Numbered.exists_drawn (h : Numbered first all) {i : Nat} (hi : i < idsDrawn all) :
    ∃ m ∈ all, m.layoutId = first + UInt16.ofNat i := by
  have hmem := List.mem_map_of_mem (f := fun i => first + UInt16.ofNat i) (List.mem_range.mpr hi)
  rw [← h.map_layoutId] at hmem
  obtain ⟨m, hm, heq⟩ := List.mem_map.mp hmem
  exact ⟨m, (List.mem_filter.mp hm).1, heq⟩

/-! ## First layouts -/

theorem Numbered.layoutId_eq_zero {m : Layout} (h : Numbered first all) (hm : m ∈ all)
    (hindex : m.index = 0) : m.layoutId = 0 := by
  induction h with
  | nil => cases hm
  | snoc _ _ _ hid ih =>
    rcases List.mem_append.mp hm with hm | hm
    · exact ih hm
    · cases List.mem_singleton.mp hm
      rw [hid, if_pos hindex]

theorem Numbered.lang_lt {m : Layout} (h : Numbered first all) (hm : m ∈ all) :
    m.lang.toNat < 0xf000 := by
  induction h with
  | nil => cases hm
  | snoc _ hlang _ _ ih =>
    rcases List.mem_append.mp hm with hm | hm
    · exact ih hm
    · cases List.mem_singleton.mp hm
      exact hlang

/-- Every language has a layout without an id. -/
theorem Numbered.exists_first {m : Layout} (h : Numbered first all) (hm : m ∈ all) :
    ∃ f ∈ all, f.lang = m.lang ∧ f.index = 0 := by
  induction h generalizing m with
  | nil => cases hm
  | @snoc all l _ _ hindex _ ih =>
    rcases List.mem_append.mp hm with hm | hm
    · obtain ⟨f, hf, hfirst⟩ := ih hm
      exact ⟨f, List.mem_append_left _ hf, hfirst⟩
    · cases List.mem_singleton.mp hm
      by_cases hzero : l.index = 0
      · exact ⟨l, by simp, rfl, hzero⟩
      · -- there is an earlier layout of the language
        have hcount : all.countP (·.lang == l.lang) ≠ 0 := by
          intro hcount
          rw [hcount] at hindex
          exact hzero hindex
        obtain ⟨m, hm, hlang⟩ := List.countP_pos_iff.mp (Nat.pos_of_ne_zero hcount)
        obtain ⟨f, hf, hflang, hfirst⟩ := ih hm
        exact ⟨f, List.mem_append_left _ hf, hflang.trans (by simpa using hlang), hfirst⟩

theorem eq_zero_of_ofNat_eq_zero {n : Nat} (hlt : n < 65536) (h : UInt16.ofNat n = 0) :
    n = 0 := by
  have hmod : n % 65536 = 0 := congrArg UInt16.toNat h
  rwa [Nat.mod_eq_of_lt hlt] at hmod

/-- As long as few ids are drawn no index comes round to zero, and all layouts of a language
but one have ids. -/
theorem Numbered.countP_lang_le (h : Numbered first all) (hfew : idsDrawn all ≤ 4096)
    (lang : LangId) : all.countP (·.lang == lang) ≤ idsDrawn all + 1 := by
  induction h with
  | nil => simp
  | @snoc all l _ _ hindex _ ih =>
    rw [idsDrawn_snoc] at hfew
    have hle := ih (by omega)
    rw [idsDrawn_snoc, List.countP_append, List.countP_singleton]
    split
    · next hlang =>
      obtain rfl : l.lang = lang := by simpa using hlang
      by_cases hzero : l.index = 0
      · rw [hzero] at hindex
        have hnone := eq_zero_of_ofNat_eq_zero (by omega) hindex.symm
        omega
      · rw [if_neg hzero]
        omega
    · omega

/-! ## Ids that fit -/

/-- The ids that are drawn from `first` on are not zero, and differ in their low bits. -/
def IdsFit (first : UInt16) (count : Nat) : Prop :=
  count = 0 ∨ first ≠ 0 ∧ first.toNat + count ≤ 65536 ∧ count ≤ 4096

instance (first : UInt16) (count : Nat) : Decidable (IdsFit first count) :=
  inferInstanceAs (Decidable (_ ∨ _))

theorem toNat_id (first : UInt16) (i : Nat) :
    (first + UInt16.ofNat i).toNat = (first.toNat + i) % 65536 := by
  rw [UInt16.toNat_add, UInt16.toNat_ofNat']
  exact Nat.add_mod_mod ..

theorem IdsFit.mono {count fewer : Nat} (h : IdsFit first count) (hle : fewer ≤ count) :
    IdsFit first fewer := by
  rcases h with rfl | ⟨hfirst, hlast, hfew⟩
  · exact .inl (Nat.le_zero.mp hle)
  · exact .inr ⟨hfirst, by omega, by omega⟩

theorem IdsFit.le {count : Nat} (h : IdsFit first count) : count ≤ 4096 := by
  rcases h with rfl | ⟨-, -, hfew⟩
  · exact Nat.zero_le _
  · exact hfew

/-- An id that fits stands in the high word, above all languages. -/
theorem IdsFit.toNat_highWord {count i : Nat} {l : Layout} (h : IdsFit first count)
    (hi : i < count) (hid : l.layoutId = first + UInt16.ofNat i) :
    l.highWord.toNat = 0xf000 + (first.toNat + i) % 4096 := by
  rcases h with rfl | ⟨hfirst, hlast, -⟩
  · exact absurd hi (Nat.not_lt_zero i)
  · have hpos : first.toNat ≠ 0 := fun hzero => hfirst (UInt16.toNat_inj.mp hzero)
    have hnat : l.layoutId.toNat = first.toNat + i := by
      rw [hid, toNat_id, Nat.mod_eq_of_lt (by omega)]
    rw [Layout.toNat_highWord, hnat]
    intro hzero
    have : l.layoutId.toNat = 0 := congrArg UInt16.toNat hzero
    omega

theorem Numbered.highWord_first {m : Layout} (h : Numbered first all) (hm : m ∈ all)
    (hindex : m.index = 0) : m.highWord = m.lang :=
  Layout.highWord_of_layoutId_eq_zero (h.layoutId_eq_zero hm hindex)

/-! ## One more layout -/

/-- A language that no layout has yet is no high word of a layout. -/
theorem Numbered.highWord_ne_lang {m : Layout} {lang : LangId} (h : Numbered first all)
    (hfit : IdsFit first (idsDrawn all)) (hlang : lang.toNat < 0xf000)
    (hcount : all.countP (·.lang == lang) = 0) (hm : m ∈ all) : m.highWord ≠ lang := by
  intro heq
  by_cases hindex : m.index = 0
  · rw [h.highWord_first hm hindex] at heq
    exact List.countP_eq_zero.mp hcount m hm (by simpa using heq)
  · obtain ⟨i, hi, hid⟩ := h.mem_drawn hm hindex
    have hword := hfit.toNat_highWord hi hid
    rw [heq] at hword
    omega

/-- An id that fits is in no high word before. -/
theorem Numbered.highWord_ne_drawn {l m : Layout} (h : Numbered first all)
    (hfit : IdsFit first (idsDrawn all + 1))
    (hid : l.layoutId = first + UInt16.ofNat (idsDrawn all)) (hm : m ∈ all) :
    m.highWord ≠ l.highWord := by
  intro heq
  have hword := hfit.toNat_highWord (Nat.lt_succ_self _) hid
  rw [← heq] at hword
  by_cases hindex : m.index = 0
  · rw [h.highWord_first hm hindex] at hword
    have hlang := h.lang_lt hm
    omega
  · -- two ids of the set are less than 4096 apart
    obtain ⟨i, hi, hmid⟩ := h.mem_drawn hm hindex
    rw [hfit.toNat_highWord (Nat.lt_succ_of_lt hi) hmid] at hword
    have hfew := hfit.le
    omega

/-- A layout with an id that is told apart from the first one of its language does not have
the id zero. -/
theorem Numbered.layoutId_ne_zero {l : Layout} (h : Numbered first (all ++ [l]))
    (hindex : l.index ≠ 0) (hdistinct : ∀ m ∈ all, m.highWord ≠ l.highWord) :
    l.layoutId ≠ 0 := by
  intro hzero
  obtain ⟨f, hf, hlang, hfirst⟩ := h.exists_first (m := l) (by simp)
  have hword := h.highWord_first hf hfirst
  rcases List.mem_append.mp hf with hf | hf
  · refine hdistinct f hf ?_
    rw [hword, hlang, Layout.highWord_of_layoutId_eq_zero hzero]
  · cases List.mem_singleton.mp hf
    exact hindex hfirst

/-- The next id fits, if it is not zero and is in no high word before. -/
theorem Numbered.idsFit_succ {l : Layout} (h : Numbered first all)
    (hfit : IdsFit first (idsDrawn all))
    (hid : l.layoutId = first + UInt16.ofNat (idsDrawn all)) (hne : l.layoutId ≠ 0)
    (hdistinct : ∀ m ∈ all, m.highWord ≠ l.highWord) : IdsFit first (idsDrawn all + 1) := by
  have hnat : (first.toNat + idsDrawn all) % 65536 ≠ 0 := by
    rw [← toNat_id, ← hid]
    exact fun hzero => hne (UInt16.toNat_inj.mp hzero)
  have hlt := first.toNat_lt
  rcases hfit with hnone | ⟨hfirst, hlast, hfew⟩
  · rw [hnone, Nat.add_zero] at hnat
    rw [hnone]
    refine .inr ⟨?_, by omega, by omega⟩
    rintro rfl
    exact hnat rfl
  · refine .inr ⟨hfirst, by omega, Nat.lt_of_le_of_ne hfew fun heq => ?_⟩
    -- after 4096 ids the low bits are those of the first one again
    have hpos : 0 < idsDrawn all := by omega
    obtain ⟨m, hm, hmid⟩ := h.exists_drawn hpos
    have hword := IdsFit.toNat_highWord (.inr ⟨hfirst, hlast, hfew⟩) hpos hmid
    refine hdistinct m hm (UInt16.toNat_inj.mp ?_)
    rw [hword, Layout.toNat_highWord hne, hid, toNat_id]
    omega

/-! ## Distinct high words -/

/-- The layouts of a set are told apart exactly if the ids that were drawn for them fit. -/
theorem Numbered.nodup_highWord_iff (h : Numbered first all) :
    (all.map Layout.highWord).Nodup ↔ IdsFit first (idsDrawn all) := by
  induction h with
  | nil => simp [IdsFit, idsDrawn]
  | @snoc all l h hlang hindex hid ih =>
    have hnodup : ((all ++ [l]).map Layout.highWord).Nodup ↔
        (all.map Layout.highWord).Nodup ∧ ∀ m ∈ all, m.highWord ≠ l.highWord := by
      rw [List.map_append, List.nodup_append]
      simp
    have numbered := h.snoc hlang hindex hid
    rw [hnodup, ih, idsDrawn_snoc]
    by_cases hzero : l.index = 0
    · -- no id is drawn, and the language is new
      rw [if_pos hzero, Nat.add_zero, and_iff_left_iff_imp]
      intro hfit m hm
      have hle := h.countP_lang_le hfit.le l.lang
      have hfew := hfit.le
      rw [hzero] at hindex
      rw [numbered.highWord_first (by simp) hzero]
      exact h.highWord_ne_lang hfit hlang (eq_zero_of_ofNat_eq_zero (by omega) hindex.symm) hm
    · rw [if_neg hzero] at hid ⊢
      constructor
      · rintro ⟨hfit, hdistinct⟩
        exact h.idsFit_succ hfit hid (numbered.layoutId_ne_zero hzero hdistinct) hdistinct
      · intro hfit
        exact ⟨hfit.mono (Nat.le_succ _), fun m hm => h.highWord_ne_drawn hfit hid hm⟩

end Layouts

/-- A keymap of lock keys only, with two groups of one language. -/
def Keymap.twoGroups : Keymap where
  minKeycode := 9
  maxKeycode := 8
  groups := 2
  groupName _ := some "English (US)"
  symbolName _ _ := none
  modifierMask name := if name = "Lock" then 2 else if name = "Mod2" then 16 else 0
  character _ _ _ := none

end InputBridge
