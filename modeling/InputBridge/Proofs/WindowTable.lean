-- SUMMARY: What registering and forgetting a window do to the handles of a table.
import InputBridge.WindowTable

/-!
# Window tables as maps

What registering and forgetting a window do to the handles that a table gives out.
No window is in a table twice, which is why a window that is forgotten is gone.
-/

namespace InputBridge

namespace WindowTable

/-- Every window stands in the table at most once. -/
def Distinct (t : WindowTable) : Prop := (t.entries.map Prod.fst).Nodup

variable {t t' : WindowTable} {window other : WindowId} {handle : Handle}

/-! ## Lists of entries -/

theorem lookup_cons (k : WindowId) (v : Handle) (rest : List (WindowId × Handle)) :
    ((k, v) :: rest).lookup other = if other = k then some v else rest.lookup other := by
  by_cases h : other = k
  · simp [h]
  · rw [List.lookup_cons, beq_eq_false_iff_ne.mpr h, if_neg h]

theorem not_mem_of_lookup {entries : List (WindowId × Handle)}
    (h : entries.lookup window = none) : window ∉ entries.map Prod.fst := by
  intro hmem
  obtain ⟨e, he, rfl⟩ := List.mem_map.mp hmem
  simpa using List.lookup_eq_none_iff.mp h e he

theorem map_fst_replace (window : WindowId) (handle : Handle) (entries : List (WindowId × Handle)) :
    (replace window handle entries).map Prod.fst = entries.map Prod.fst := by
  induction entries with
  | nil => rfl
  | cons e rest ih =>
    by_cases h : e.1 = window
    · simp [replace, h]
    · simp [replace, h, ih]

theorem lookup_replace {entries : List (WindowId × Handle)} (h : entries.lookup window ≠ none) :
    (replace window handle entries).lookup other =
      if other = window then some handle else entries.lookup other := by
  induction entries with
  | nil => exact absurd rfl h
  | cons e rest ih =>
    obtain ⟨k, v⟩ := e
    rw [lookup_cons] at h ⊢
    -- the entry that is replaced is the first of the window, which the lookup finds
    by_cases hk : k = window
    · subst hk
      rw [replace, if_pos rfl, lookup_cons]
      by_cases ho : other = k <;> simp [ho]
    · rw [if_neg (Ne.symm hk)] at h
      rw [replace, if_neg hk, lookup_cons, ih h]
      by_cases ho : other = k
      · subst ho
        simp [hk]
      · simp [ho]

theorem lookup_eraseP {entries : List (WindowId × Handle)}
    (distinct : (entries.map Prod.fst).Nodup) :
    (entries.eraseP (·.1 == window)).lookup other =
      if other = window then none else entries.lookup other := by
  induction entries with
  | nil => simp
  | cons e rest ih =>
    obtain ⟨k, v⟩ := e
    obtain ⟨absent, hrest⟩ := List.nodup_cons.mp distinct
    rw [lookup_cons]
    by_cases hk : k = window
    · subst hk
      rw [List.eraseP_cons_of_pos (by simp)]
      by_cases ho : other = k
      · -- the entry that went was the only one of the window
        subst ho
        rw [if_pos rfl]
        refine List.lookup_eq_none_iff.mpr ?_
        intro e he
        have hne : other ≠ e.1 := fun heq => absent (List.mem_map.mpr ⟨e, he, heq.symm⟩)
        simpa using hne
      · simp [ho]
    · rw [List.eraseP_cons_of_neg (by simpa using hk), lookup_cons, ih hrest]
      by_cases ho : other = k
      · subst ho
        simp [hk]
      · simp [ho]

theorem mem_entries_iff (distinct : t.Distinct) :
    (window, handle) ∈ t.entries ↔ t.lookup? window = some handle := by
  rw [lookup?]
  unfold Distinct at distinct
  generalize t.entries = entries at distinct ⊢
  induction entries with
  | nil => simp
  | cons e rest ih =>
    obtain ⟨k, v⟩ := e
    obtain ⟨absent, hrest⟩ := List.nodup_cons.mp distinct
    rw [lookup_cons, List.mem_cons, ih hrest]
    by_cases hk : window = k
    · -- the rest has no other handle for the window at the head
      subst hk
      have hnone : rest.lookup window ≠ some handle := fun hsome =>
        absent (List.mem_map.mpr ⟨(window, handle), (ih hrest).mpr hsome, rfl⟩)
      simp [hnone, eq_comm]
    · simp [hk]

/-! ## Registering -/

theorem Distinct.empty : ({} : WindowTable).Distinct := List.nodup_nil

/-- The table before a window is added to it: the same, or one with more slots if all were used. -/
def Makes (t room : WindowTable) : Prop :=
  t.size ≠ t.capacity ∧ room = t ∨ t.size = t.capacity ∧ t.grow? = some room

theorem entries_of_grow? (h : t.grow? = some t') : t'.entries = t.entries := by
  unfold grow? at h
  split at h
  · cases h
  · cases h
    rfl

theorem Makes.entries {room : WindowTable} (h : t.Makes room) : room.entries = t.entries := by
  rcases h with ⟨-, rfl⟩ | ⟨-, grown⟩
  · rfl
  · exact entries_of_grow? grown

/-- A registration that is granted changes a handle where it stands, or it makes room for the
window and adds it at the end. -/
theorem insert?_cases (h : t.insert? window handle = some t') :
    (t.lookup? window ≠ none ∧ t' = { t with entries := replace window handle t.entries }) ∨
      (t.lookup? window = none ∧ ∃ room, t.Makes room ∧
        t' = { room with entries := room.entries ++ [(window, handle)] }) := by
  -- room is made only where there is no slot left
  unfold insert? at h
  split at h
  · next old hold =>
    cases h
    exact .inl ⟨by simp [hold], rfl⟩
  · next hnew =>
    obtain ⟨room, hroom, rfl⟩ := Option.map_eq_some_iff.mp h
    refine .inr ⟨hnew, room, ?_, rfl⟩
    split at hroom
    · next full => exact .inr ⟨full, hroom⟩
    · next spare =>
      cases hroom
      exact .inl ⟨spare, rfl⟩

/-- The entries after a registration: one was changed, or one was added. -/
theorem entries_of_insert? (h : t.insert? window handle = some t') :
    (t.lookup? window ≠ none ∧ t'.entries = replace window handle t.entries) ∨
      (t.lookup? window = none ∧ t'.entries = t.entries ++ [(window, handle)]) := by
  rcases insert?_cases h with ⟨hold, rfl⟩ | ⟨hnew, room, makes, rfl⟩
  · exact .inl ⟨hold, rfl⟩
  · exact .inr ⟨hnew, by rw [makes.entries]⟩

theorem lookup?_insert? (h : t.insert? window handle = some t') :
    t'.lookup? other = if other = window then some handle else t.lookup? other := by
  rcases entries_of_insert? h with ⟨hold, hentries⟩ | ⟨hnew, hentries⟩
  · rw [lookup?, hentries]
    exact lookup_replace hold
  · rw [lookup?, hentries, List.lookup_append]
    by_cases ho : other = window
    · subst ho
      rw [show t.entries.lookup other = none from hnew]
      simp
    · rw [lookup_cons, if_neg ho, List.lookup_nil, Option.or_none, if_neg ho]
      rfl

theorem Distinct.insert? (distinct : t.Distinct) (h : t.insert? window handle = some t') :
    t'.Distinct := by
  rcases entries_of_insert? h with ⟨-, hentries⟩ | ⟨hnew, hentries⟩
  · -- the windows are the same, and only a handle is another
    rw [Distinct, hentries, map_fst_replace]
    exact distinct
  · rw [Distinct, hentries, List.map_append, List.nodup_append]
    refine ⟨distinct, by simp, ?_⟩
    intro a ha b hb hab
    obtain rfl : b = window := by simpa using hb
    exact not_mem_of_lookup hnew (hab ▸ ha)

/-! ## Forgetting -/

@[simp] theorem entries_shrink (t : WindowTable) : t.shrink.entries = t.entries := by
  unfold shrink
  split <;> rfl

theorem remove_fst : (t.remove window).1 = t.lookup? window := by
  unfold remove
  split
  · next h => exact h.symm
  · next h => exact h.symm

/-- Forgetting a window that is not registered does nothing. -/
theorem remove_of_lookup?_eq_none (h : t.lookup? window = none) : (t.remove window).2 = t := by
  simp [remove, h]

theorem entries_remove : (t.remove window).2.entries = t.entries.eraseP (·.1 == window) := by
  unfold remove
  split
  · next h =>
    refine (List.eraseP_of_forall_not ?_).symm
    intro e he heq
    exact not_mem_of_lookup h (List.mem_map.mpr ⟨e, he, by simpa using heq⟩)
  · simp

theorem lookup?_remove (distinct : t.Distinct) :
    (t.remove window).2.lookup? other = if other = window then none else t.lookup? other := by
  rw [lookup?, entries_remove]
  exact lookup_eraseP distinct

theorem Distinct.remove (distinct : t.Distinct) : (t.remove window).2.Distinct := by
  rw [Distinct, entries_remove]
  exact distinct.sublist (List.eraseP_sublist.map Prod.fst)

end WindowTable

end InputBridge
