-- SUMMARY: Distinct keys and counts of values along insertions and erasures.
import InputBridge.Assoc

/-!
# Keys and counts of association lists

A list made by inserting and erasing has each key once. How many of its values
have a property changes by the value that is put in and the one that it replaces.
-/

namespace InputBridge

namespace Assoc

variable {α β : Type} [DecidableEq α] {m : Assoc α β} {key key' : α} {value : β}

/-- Every key stands in the list at most once. -/
def Distinct (m : Assoc α β) : Prop := (m.map Prod.fst).Nodup

theorem get?_cons (key' : α) (value : β) (m : Assoc α β) :
    get? ((key', value) :: m) key = if key' = key then some value else get? m key := rfl

theorem insert_cons (key' : α) (value' : β) (m : Assoc α β) :
    insert ((key', value') :: m) key value =
      if key' = key then (key, value) :: m else (key', value') :: insert m key value := rfl

theorem erase_cons (key' : α) (value' : β) (m : Assoc α β) :
    erase ((key', value') :: m) key =
      if key' = key then erase m key else (key', value') :: erase m key := by
  by_cases h : key' = key <;> simp [erase, h]

/-! ## Members -/

theorem mem_of_get? (h : m.get? key = some value) : (key, value) ∈ m := by
  induction m with
  | nil => cases h
  | cons e rest ih =>
    obtain ⟨k, v⟩ := e
    rw [get?_cons] at h
    split at h
    · next hk =>
      cases h
      exact hk ▸ List.mem_cons_self
    · exact List.mem_cons_of_mem _ (ih h)

theorem get?_of_mem (distinct : m.Distinct) (h : (key, value) ∈ m) : m.get? key = some value := by
  induction m with
  | nil => cases h
  | cons e rest ih =>
    obtain ⟨k, v⟩ := e
    obtain ⟨absent, hrest⟩ := List.nodup_cons.mp distinct
    rw [get?_cons]
    rcases List.mem_cons.mp h with heq | hmem
    · cases heq
      exact if_pos rfl
    -- the key at the head occurs once
    · have hk : k ≠ key := fun hk => absent (List.mem_map.mpr ⟨_, hmem, hk.symm⟩)
      rw [if_neg hk]
      exact ih hrest hmem

theorem mem_iff_get? (distinct : m.Distinct) : (key, value) ∈ m ↔ m.get? key = some value :=
  ⟨get?_of_mem distinct, mem_of_get?⟩

theorem eq_nil_of_get? (h : ∀ key, m.get? key = none) : m = [] := by
  cases m with
  | nil => rfl
  | cons e rest =>
    have hhead := h e.1
    rw [get?_cons, if_pos rfl] at hhead
    cases hhead

/-! ## Keys -/

omit [DecidableEq α] in
theorem Distinct.nil : Distinct ([] : Assoc α β) := List.nodup_nil

theorem mem_keys_insert : key' ∈ (m.insert key value).map Prod.fst ↔
    key' = key ∨ key' ∈ m.map Prod.fst := by
  induction m with
  | nil => simp [insert]
  | cons e rest ih =>
    obtain ⟨k, v⟩ := e
    rw [insert_cons]
    by_cases h : k = key
    · simp [h]
    · rw [if_neg h, List.map_cons, List.map_cons, List.mem_cons, List.mem_cons, ih]
      exact or_left_comm

theorem Distinct.insert (distinct : m.Distinct) : (m.insert key value).Distinct := by
  induction m with
  | nil => simp [Distinct, Assoc.insert]
  | cons e rest ih =>
    obtain ⟨k, v⟩ := e
    obtain ⟨absent, hrest⟩ := List.nodup_cons.mp distinct
    rw [insert_cons]
    split
    · -- the value is replaced in its place, and the keys stay as they are
      next hk => exact List.nodup_cons.mpr ⟨hk ▸ absent, hrest⟩
    · next hk =>
      refine List.nodup_cons.mpr ⟨?_, ih hrest⟩
      intro hmem
      rcases mem_keys_insert.mp hmem with heq | hmem
      · exact hk heq
      · exact absent hmem

theorem Distinct.erase (distinct : m.Distinct) : (m.erase key).Distinct :=
  distinct.sublist (List.filter_sublist.map Prod.fst)

/-! ## Counts -/

theorem countP_insert (p : β → Bool) (m : Assoc α β) (key : α) (value : β) :
    (m.insert key value).countP (p ·.2) + (if (m.get? key).any p then 1 else 0) =
      m.countP (p ·.2) + if p value then 1 else 0 := by
  induction m with
  | nil => simp [insert]
  | cons e rest ih =>
    obtain ⟨k, v⟩ := e
    rw [insert_cons, get?_cons]
    by_cases h : k = key
    · -- the value at the head is counted no more, and the new one is counted for it
      simp only [if_pos h, List.countP_cons, Option.any_some]
      omega
    · simp only [if_neg h, List.countP_cons]
      omega

theorem countP_erase (p : β → Bool) (distinct : m.Distinct) (key : α) :
    (m.erase key).countP (p ·.2) + (if (m.get? key).any p then 1 else 0) = m.countP (p ·.2) := by
  induction m with
  | nil => rfl
  | cons e rest ih =>
    obtain ⟨k, v⟩ := e
    obtain ⟨absent, hrest⟩ := List.nodup_cons.mp distinct
    rw [erase_cons, get?_cons]
    by_cases h : k = key
    · -- the key stands nowhere else
      have hnone : erase rest key = rest := by
        refine List.filter_eq_self.mpr ?_
        intro e he
        simpa [← h] using fun heq => absent (List.mem_map.mpr ⟨e, he, heq⟩)
      rw [if_pos h, if_pos h, hnone, Option.any_some, List.countP_cons]
    · rw [if_neg h, if_neg h, List.countP_cons, List.countP_cons, ← ih hrest]
      omega

end Assoc

end InputBridge
