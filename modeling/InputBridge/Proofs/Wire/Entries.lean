-- SUMMARY: Reading a map does not depend on the order of its entries or on unknown ones.
import InputBridge.Proofs.Wire.Fields

/-!
# Entries in any order

Whoever reads a map does not care for the order of its entries, nor for entries under names that it
does not know. So a map may come from somebody who orders its entries in another way, or who has
more to say.
-/

namespace InputBridge

namespace Wire

namespace Value

variable {anyWidth : Bool} {names : List String} {name tag : String} {slots slots' : Slots}
  {i : Nat} {k v : Value} {e e' : Value × Value}
  {entries entries' extra others : List (Value × Value)}

/-! ## Keys -/

/-- A text, or the bytes of one that is not UTF-8. -/
def IsString : Value → Prop
  | .text _ => True
  | .bytes b => Text.Utf8.decode? b = none
  | _ => False

theorem isName_iff (h : k.IsString) : isName name k = true ↔ k = .text name := by
  cases k with
  | text s => simp [isName]
  | bytes b =>
    -- the bytes of a name are UTF-8
    have hne : b ≠ Text.Utf8.encode name := by
      rintro rfl
      simp [IsString, Text.Utf8.decode?_encode] at h
    simp [isName, hne]
  | nil | bool | unsigned | signed | float32 | float64 | array | map | extension => cases h

theorem keyIndex?_of_isString (h : k.IsString) :
    keyIndex? anyWidth names k = some (names.findIdx? (isName · k)) := by
  cases k with
  | text | bytes => rfl
  | nil | bool | unsigned | signed | float32 | float64 | array | map | extension => cases h

/-- The key is none of the names. -/
def Unknown (names : List String) (k : Value) : Prop :=
  k.IsString ∧ ∀ name ∈ names, k ≠ .text name

theorem Unknown.isName (h : Unknown names k) (hname : name ∈ names) : isName name k = false :=
  Bool.eq_false_iff.mpr fun heq => h.2 name hname ((isName_iff h.1).mp heq)

theorem Unknown.keyIndex? (h : Unknown names k) : keyIndex? anyWidth names k = some none := by
  rw [keyIndex?_of_isString h.1, List.findIdx?_eq_none_iff.mpr fun _ hname => h.isName hname]

theorem mem_of_variantIndex? (h : variantIndex? anyWidth names (.text name) = some i) :
    name ∈ names := by
  obtain ⟨hi, hname, -⟩ := List.findIdx?_eq_some_iff_getElem.mp
    (show names.findIdx? (isName · (.text name)) = some i from h)
  rw [(beq_iff_eq.mp hname : name = names[i])]
  exact List.getElem_mem hi

/-! ## Filling slots -/

/-- Puts a value into a slot that is empty. -/
def putAt (i : Nat) (v : Value) (slots : Slots) : Option Slots :=
  if (slots.getD i none).isSome then none else some (slots.set i (some v))

/-- Puts the value of one entry into its slot. -/
def putEntry (anyWidth : Bool) (names : List String) (e : Value × Value) (slots : Slots) :
    Option Slots :=
  match keyIndex? anyWidth names e.1 with
  | none => none
  | some none => some slots
  | some (some i) => putAt i e.2 slots

theorem fillSlots_cons : fillSlots anyWidth names (e :: entries) slots =
    (putEntry anyWidth names e slots).bind (fillSlots anyWidth names entries) := by
  rw [fillSlots, putEntry]
  rcases keyIndex? anyWidth names e.1 with _ | _ | i
  · rfl
  · rfl
  · simp only [Option.bind_eq_bind, Option.bind_some, putAt]
    split <;> rfl

theorem getD_set (slots : Slots) (i j : Nat) (v : Value) : (slots.set i (some v)).getD j none =
    if i = j ∧ i < slots.length then some v else slots.getD j none := by
  rw [List.getD_eq_getElem?_getD, List.getD_eq_getElem?_getD, List.getElem?_set]
  by_cases hij : i = j
  · subst hij
    by_cases hi : i < slots.length <;> simp [hi]
  · simp [hij]

/-- Two values may be put into slots in either order. If it is one slot, neither order will do. -/
theorem putAt_comm (i j : Nat) (v w : Value) (slots : Slots) :
    (putAt i v slots).bind (putAt j w) = (putAt j w slots).bind (putAt i v) := by
  unfold putAt
  by_cases hij : i = j
  · subst hij
    by_cases hi : i < slots.length
    · split <;> simp [hi]
    · -- there is no such slot, and nothing is put anywhere
      rw [List.set_eq_of_length_le (Nat.le_of_not_lt hi),
        List.set_eq_of_length_le (Nat.le_of_not_lt hi)]
      split
      · rfl
      · next hempty =>
        simp only [Option.bind_some, if_neg hempty]
        rw [List.set_eq_of_length_le (Nat.le_of_not_lt hi),
          List.set_eq_of_length_le (Nat.le_of_not_lt hi)]
  · by_cases hi : (slots.getD i none).isSome <;> by_cases hj : (slots.getD j none).isSome <;>
      simp only [hi, hj, if_true, if_false, Option.bind_none, Option.bind_some, getD_set, hij,
        Ne.symm hij, false_and, Bool.false_eq_true, List.set_comm _ _ hij]

theorem putEntry_comm : (putEntry anyWidth names e slots).bind (putEntry anyWidth names e') =
    (putEntry anyWidth names e' slots).bind (putEntry anyWidth names e) := by
  unfold putEntry
  rcases keyIndex? anyWidth names e.1 with _ | _ | i <;>
    rcases keyIndex? anyWidth names e'.1 with _ | _ | j
  case some.some.some.some => exact putAt_comm i j e.2 e'.2 slots
  all_goals simp

theorem fillSlots_perm (h : entries.Perm entries') :
    fillSlots anyWidth names entries slots = fillSlots anyWidth names entries' slots := by
  induction h generalizing slots with
  | nil => rfl
  | cons e _ ih =>
    rw [fillSlots_cons, fillSlots_cons]
    congr 1
    exact funext fun slots => ih
  | swap e e' rest =>
    simp only [fillSlots_cons, ← Option.bind_assoc]
    rw [putEntry_comm]
  | trans _ _ ih ih' => exact ih.trans ih'

theorem fillSlots_append : fillSlots anyWidth names (entries ++ extra) slots =
    (fillSlots anyWidth names entries slots).bind (fillSlots anyWidth names extra) := by
  induction entries generalizing slots with
  | nil => rfl
  | cons e entries ih =>
    rw [List.cons_append, fillSlots_cons, fillSlots_cons, Option.bind_assoc]
    congr 1
    exact funext fun slots => ih

theorem fillSlots_unknown (h : ∀ e ∈ extra, Unknown names e.1) :
    fillSlots anyWidth names extra slots = some slots := by
  induction extra with
  | nil => rfl
  | cons e extra ih =>
    obtain ⟨he, hextra⟩ := List.forall_mem_cons.mp h
    rw [fillSlots_cons, putEntry, he.keyIndex?]
    exact ih hextra

/-- Order and unknown entries make no difference to the slots. -/
theorem slotsOfMap_of_perm (nodup : names.Nodup) (hlength : slots.length = names.length)
    (perm : entries.Perm (entriesOf names slots ++ extra))
    (unknown : ∀ e ∈ extra, Unknown names e.1) :
    slotsOfMap anyWidth names entries = some slots := by
  rw [slotsOfMap, fillSlots_perm perm, fillSlots_append]
  have filled := @fillSlots_entriesOf anyWidth names [] [] slots nodup rfl hlength
  rw [List.nil_append, List.nil_append, List.nil_append] at filled
  rw [filled]
  exact fillSlots_unknown unknown

/-! ## What is in a slot -/

theorem putAt_eq_some (h : putAt i v slots = some slots') :
    slots.getD i none = none ∧ slots' = slots.set i (some v) := by
  unfold putAt at h
  split at h
  · cases h
  · next hempty =>
    cases h
    exact ⟨Option.not_isSome_iff_eq_none.mp hempty, rfl⟩

/-- What has been put into a slot stays there. -/
theorem getD_of_fillSlots (h : fillSlots anyWidth names entries slots = some slots')
    (hv : slots.getD i none = some v) : slots'.getD i none = some v := by
  induction entries generalizing slots with
  | nil =>
    cases h
    exact hv
  | cons e entries ih =>
    rw [fillSlots_cons] at h
    obtain ⟨next, hnext, h⟩ := Option.bind_eq_some_iff.mp h
    refine ih h ?_
    unfold putEntry at hnext
    split at hnext
    · cases hnext
    · cases hnext
      exact hv
    · next j hkey =>
      obtain ⟨hempty, rfl⟩ := putAt_eq_some hnext
      -- the slot that is filled was empty, so it is another one
      rw [getD_set, if_neg, hv]
      rintro ⟨rfl, -⟩
      rw [hv] at hempty
      cases hempty

/-- The slot of a field holds the value of its entry, wherever that stands. -/
theorem getD_of_mem (h : fillSlots anyWidth names entries slots = some slots')
    (he : (k, v) ∈ entries) (hk : keyIndex? anyWidth names k = some (some i))
    (hi : i < slots.length) : slots'.getD i none = some v := by
  obtain ⟨before, after, rfl⟩ := List.append_of_mem he
  rw [fillSlots_perm List.perm_middle, fillSlots_cons, putEntry, hk] at h
  obtain ⟨next, hnext, h⟩ := Option.bind_eq_some_iff.mp h
  obtain ⟨-, rfl⟩ := putAt_eq_some hnext
  refine getD_of_fillSlots h ?_
  rw [getD_set, if_pos ⟨rfl, hi⟩]

/-! ## Tags -/

/-- The tag is found wherever it stands. -/
theorem splitTag_of_perm (perm : entries.Perm ((.text tag, v) :: others))
    (hothers : ∀ e ∈ others, isName tag e.1 = false) :
    ∃ rest, splitTag tag entries = some (v, rest) ∧ rest.Perm others := by
  have tagged : isName tag (.text tag) = true := beq_self_eq_true tag
  have tag_others : others.filter (fun e => isName tag e.1) = [] :=
    List.filter_eq_nil_iff.mpr fun e he => by simp [hothers e he]
  have rest_others : others.filter (not ∘ fun e => isName tag e.1) = others :=
    List.filter_eq_self.mpr fun e he => by simp [hothers e he]
  have found : entries.filter (fun e => isName tag e.1) = [(.text tag, v)] := by
    have filtered := perm.filter (fun e => isName tag e.1)
    simpa [tagged, tag_others] using filtered
  refine ⟨entries.filter (not ∘ fun e => isName tag e.1), ?_, ?_⟩
  · rw [splitTag, List.partition_eq_filter_filter, found]
  · have filtered := perm.filter (not ∘ fun e => isName tag e.1)
    rwa [List.filter_cons_of_neg (by simp [tagged]), rest_others] at filtered

end Value

end Wire

end InputBridge
