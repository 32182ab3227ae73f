-- SUMMARY: A set of layouts after it was built anew, or could not be.
import InputBridge.Proofs.Keyboard.LayoutIds
import InputBridge.Seat.Typing

/-!
# Building all layouts anew

A set that was built anew has a layout for each group, in the order of the groups, and none of
them is active. The layouts of a language are numbered in this order. If one layout cannot be
built, the ones before it are given up as well.
-/

namespace InputBridge

/-- A seat builds its layouts anew without a look at those that it had. -/
theorem Seat.rebuildLayouts_congr {σ : Type} (S : DisplayServer σ) (s : Seat)
    (previous : Layouts) :
    { s with layouts := previous }.rebuildLayouts S = s.rebuildLayouts S := by
  unfold rebuildLayouts
  refine bind_congr fun rules => bind_congr fun keymap => ?_
  -- whether there is a keymap or not, the layouts are written over
  cases keymap <;> rfl

namespace Layouts

variable {all built : List Layout} {groups : List UInt32} {keymap : Keymap} {rules : Rules}
  {first nextId next : UInt16} {layouts : Layouts} {l : Layout}

/-! ## Groups -/

theorem map_group_of_buildGroups
    (h : buildGroups keymap rules groups built nextId = (.ok all, next)) :
    all.map (·.group) = built.map (·.group) ++ groups := by
  induction groups generalizing built nextId with
  | nil =>
    cases h
    exact (List.append_nil _).symm
  | cons group groups ih =>
    unfold buildGroups at h
    split at h
    · next l nextId' hl =>
      rw [ih h, List.map_append, List.append_assoc]
      exact congrArg (_ ++ · :: groups) (Layout.built_of_build hl).group
    · cases h

theorem map_group_of_rebuild (h : rebuild keymap rules first = (.ok (), layouts, next)) :
    layouts.all.map (·.group) = (List.range keymap.groups.toNat).map UInt32.ofNat := by
  unfold rebuild at h
  dsimp only at h
  split at h
  · next all nextId hbuild =>
    cases h
    exact map_group_of_buildGroups hbuild
  · cases h

theorem rebuild_eq_error {e : LayoutError}
    (h : rebuild keymap rules first = (.error e, layouts, next)) : layouts = .empty := by
  unfold rebuild at h
  dsimp only at h
  split at h
  · cases h
  · cases h
    rfl

theorem activeIndex_rebuild (keymap : Keymap) (rules : Rules) (first : UInt16) :
    (rebuild keymap rules first).2.1.activeIndex = none := by
  unfold rebuild
  dsimp only
  split <;> rfl

/-! ## Indices -/

theorem Numbered.index_eq (h : Numbered first all) {i : Nat} (hl : all[i]? = some l) :
    l.index = UInt16.ofNat ((all.take i).countP (·.lang == l.lang)) := by
  induction h with
  | nil => cases hl
  | @snoc all last _ _ hindex _ ih =>
    rcases Nat.lt_trichotomy i all.length with hi | rfl | hi
    · rw [List.getElem?_append_left hi] at hl
      rw [List.take_append_of_le_length (Nat.le_of_lt hi)]
      exact ih hl
    · obtain rfl : last = l := by simpa using hl
      rw [List.take_left]
      exact hindex
    · have hle : (all ++ [last]).length ≤ i := Nat.le_trans (Nat.le_of_eq List.length_append) hi
      rw [List.getElem?_eq_none hle] at hl
      cases hl

/-- A set that is not too large for the numbers has them all. -/
theorem Numbered.toNat_index (h : Numbered first all) (hlength : all.length < 65536) {i : Nat}
    (hl : all[i]? = some l) :
    l.index.toNat = (all.take i).countP (·.lang == l.lang) := by
  have hcount : (all.take i).countP (·.lang == l.lang) ≤ all.length :=
    Nat.le_trans List.countP_le_length (List.length_take_le' i all)
  rw [h.index_eq hl, UInt16.toNat_ofNat']
  exact Nat.mod_eq_of_lt (by omega)

/-- A later layout of the language counts the earlier one. -/
theorem Numbered.nodup_lang_index (h : Numbered first all) (hlength : all.length < 65536) :
    (all.map fun l => (l.lang, l.index)).Nodup := by
  rw [List.Nodup, List.pairwise_map, List.pairwise_iff_getElem]
  intro i j hi hj hij heq
  obtain ⟨hlang, hindex⟩ := Prod.mk.inj heq
  have hcount := h.toNat_index hlength (List.getElem?_eq_getElem hi)
  have hcount' := h.toNat_index hlength (List.getElem?_eq_getElem hj)
  -- the earlier layout is itself among those that the later one counts
  have hone : (all.take (i + 1)).countP (·.lang == all[j].lang) =
      (all.take i).countP (·.lang == all[i].lang) + 1 := by
    rw [List.take_succ_eq_append_getElem hi, List.countP_append, hlang]
    simp [hlang]
  have hle : (all.take (i + 1)).countP (·.lang == all[j].lang) ≤
      (all.take j).countP (·.lang == all[j].lang) :=
    (List.take_sublist_take_left hij).countP_le
  rw [hindex] at hcount
  omega

/-- Once a set was built anew none of its layouts is active, and there is one for each group,
in order and numbered within its language, or none at all after an error. What a seat's set
held before makes no difference. -/
theorem index_eq_of_rebuild {result : Except LayoutError Unit}
    (hgroups : keymap.groups.toNat < 65536)
    (h : rebuild keymap rules first = (result, layouts, next)) :
    layouts.active = none ∧
    (result = .ok () →
      layouts.all.map (·.group) = (List.range keymap.groups.toNat).map UInt32.ofNat ∧
      (layouts.all.map fun l => (l.lang, l.index)).Nodup ∧
      ∀ i l, layouts.all[i]? = some l →
        l.index.toNat = (layouts.all.take i).countP (·.lang == l.lang)) ∧
    (∀ e, result = .error e → layouts.all = []) ∧
    ∀ (σ : Type) (S : DisplayServer σ) (s : Seat) (previous : Layouts),
      { s with layouts := previous }.rebuildLayouts S = s.rebuildLayouts S := by
  have hactive : layouts.activeIndex = none := by
    have hnone := activeIndex_rebuild keymap rules first
    rwa [h] at hnone
  refine ⟨by rw [active, hactive]; rfl, ?_, ?_, fun _ S s => s.rebuildLayouts_congr S⟩
  · rintro rfl
    have hall := map_group_of_rebuild h
    have numbered := numbered_of_rebuild h
    have hlength : layouts.all.length < 65536 := by
      have hgroup : (layouts.all.map (·.group)).length = keymap.groups.toNat := by
        rw [hall, List.length_map, List.length_range]
      rwa [← hgroup, List.length_map] at hgroups
    exact ⟨hall, numbered.nodup_lang_index hlength, fun i l => numbered.toNat_index hlength⟩
  · rintro e rfl
    rw [rebuild_eq_error h]
    rfl

/-- Of two groups of one language the second one has the index 1. -/
theorem index_of_rebuild_twoGroups : Keymap.twoGroups.groups.toNat < 65536 ∧
    ∃ layouts next, rebuild .twoGroups {} 1 = (.ok (), layouts, next) ∧
      layouts.active = none ∧ layouts.all.map (·.group) = [0, 1] ∧
      layouts.all.map (fun l => (l.lang, l.index)) = [(0x409, 0), (0x409, 1)] ∧
      (layouts.all.map fun l => (l.lang, l.index)).Nodup := by
  have hgroups : Keymap.twoGroups.groups.toNat < 65536 := by decide
  have indices : (rebuild .twoGroups {} 1).2.1.all.map (fun l => (l.lang, l.index)) =
      [(0x409, 0), (0x409, 1)] := by decide +kernel
  have built : (rebuild .twoGroups {} 1).1.toOption = some () := by decide +kernel
  generalize hrebuild : rebuild .twoGroups {} 1 = r at indices built
  obtain ⟨result, layouts, next⟩ := r
  cases result with
  | error e => cases built
  | ok =>
    obtain ⟨hactive, hbuilt, -, -⟩ := index_eq_of_rebuild hgroups hrebuild
    obtain ⟨hall, nodup, -⟩ := hbuilt rfl
    exact ⟨hgroups, layouts, next, rfl, hactive, hall, indices, nodup⟩

end Layouts

end InputBridge
