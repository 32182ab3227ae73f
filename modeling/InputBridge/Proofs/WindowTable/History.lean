-- SUMMARY: Lookups and order of a window table, told by its history alone.
import Mathlib.Data.List.Induction
import InputBridge.Proofs.WindowTable

/-!
# What a window table remembers of its history

A table that began empty and was changed in any way is a map that keeps the order of
registration. What it says is told here by the history alone: by the place at which a window was
registered, and by whether it was forgotten since. A registration that was refused is in the
history too, but does not count.
-/

namespace InputBridge

namespace WindowTable

/-- What can be asked of a table to change it. -/
inductive Change where
  | insert (window : WindowId) (handle : Handle)
  | remove (window : WindowId)
  deriving DecidableEq, Repr

/-- The table after a change; one that is refused leaves the table as it was. -/
def change (t : WindowTable) : Change → WindowTable
  | .insert window handle => (t.insert? window handle).getD t
  | .remove window => (t.remove window).2

/-- The table that began empty and was changed so. -/
def replay (changes : List Change) : WindowTable := changes.foldl change {}

/-- The `n`-th change registered `window` with `handle`: the table had room for it. -/
def Registers (changes : List Change) (n : Nat) (window : WindowId) (handle : Handle) : Prop :=
  changes[n]? = some (.insert window handle) ∧
    (replay (changes.take n)).insert? window handle ≠ none

def Removes (changes : List Change) (n : Nat) (window : WindowId) : Prop :=
  changes[n]? = some (.remove window)

/-- The `n`-th change is the last that registered `window`, and no removal followed. -/
structure Holds (changes : List Change) (n : Nat) (window : WindowId) (handle : Handle) :
    Prop where
  registers : Registers changes n window handle
  last : ∀ m handle', n < m → ¬ Registers changes m window handle'
  kept : ∀ m, n < m → ¬ Removes changes m window

/-- The `n`-th change is the first that registered `window` since it was last removed. -/
structure Enters (changes : List Change) (n : Nat) (window : WindowId) : Prop where
  registers : ∃ handle, Registers changes n window handle
  first : ∀ m handle, m < n → Registers changes m window handle →
    ∃ k, m < k ∧ k < n ∧ Removes changes k window
  kept : ∀ m, n < m → ¬ Removes changes m window

/-- The table has no more windows than slots, and no more slots than there may be. -/
structure Fits (t : WindowTable) : Prop where
  used : t.size ≤ t.capacity
  bounded : t.capacity ≤ maxCapacity

variable {t t' : WindowTable} {changes : List Change} {c : Change} {window other : WindowId}
  {handle : Handle} {n : Nat}

/-! ## One change -/

theorem replay_concat (changes : List Change) (c : Change) :
    replay (changes ++ [c]) = (replay changes).change c := by
  simp [replay]

theorem change_insert (h : t.insert? window handle = some t') :
    t.change (.insert window handle) = t' := by
  simp [change, h]

theorem change_insert_of_none (h : t.insert? window handle = none) :
    t.change (.insert window handle) = t := by
  simp [change, h]

/-- What holds of the empty table and is kept by every change holds of every table. -/
theorem replay_induction {P : WindowTable → Prop} (empty : P {})
    (step : ∀ t c, P t → P (t.change c)) (changes : List Change) : P (replay changes) := by
  induction changes using List.reverseRecOn with
  | nil => exact empty
  | append_singleton changes c ih =>
    rw [replay_concat]
    exact step _ c ih

/-- A change leaves the table as it is, or it is a registration that was granted, or a removal. -/
theorem change_cases (t : WindowTable) (c : Change) :
    (∃ window handle, c = .insert window handle ∧ t.insert? window handle = none ∧
      t.change c = t) ∨
      (∃ window handle, c = .insert window handle ∧
        t.insert? window handle = some (t.change c)) ∨
      ∃ window, c = .remove window ∧ t.change c = (t.remove window).2 := by
  cases c with
  | insert window handle =>
    cases h : t.insert? window handle with
    | none => exact .inl ⟨window, handle, rfl, h, change_insert_of_none h⟩
    | some t' => exact .inr (.inl ⟨window, handle, rfl, by rw [h, change_insert h]⟩)
  | remove window => exact .inr (.inr ⟨window, rfl, rfl⟩)

theorem Distinct.change (distinct : t.Distinct) (c : Change) : (t.change c).Distinct := by
  rcases change_cases t c with ⟨_, _, -, -, same⟩ | ⟨_, _, -, granted⟩ | ⟨window, -, removed⟩
  · rwa [same]
  · exact distinct.insert? granted
  · rw [removed]
    exact distinct.remove

theorem distinct_replay (changes : List Change) : (replay changes).Distinct :=
  replay_induction Distinct.empty (fun _ c distinct => distinct.change c) changes

/-- What a change means to one window: a handle, its removal, or nothing. -/
theorem lookup?_change (distinct : t.Distinct) (c : Change) (window : WindowId) :
    (∃ handle, c = .insert window handle ∧ t.insert? window handle ≠ none ∧
      (t.change c).lookup? window = some handle) ∨
      (c = .remove window ∧ (t.change c).lookup? window = none) ∨
      (c ≠ .remove window ∧ (∀ handle, c = .insert window handle →
          t.insert? window handle = none) ∧
        (t.change c).lookup? window = t.lookup? window) := by
  rcases change_cases t c with ⟨other, handle, rfl, refused, same⟩ |
    ⟨other, handle, rfl, granted⟩ | ⟨other, rfl, removed⟩
  · refine .inr (.inr ⟨by simp, ?_, by rw [same]⟩)
    intro handle' heq
    cases heq
    exact refused
  -- of an insertion only the window that it is for hears
  · have looked := @lookup?_insert? t _ other window handle granted
    by_cases hw : window = other
    · subst hw
      exact .inl ⟨handle, rfl, by simp [granted], by simpa using looked⟩
    · refine .inr (.inr ⟨by simp, ?_, by simpa [hw] using looked⟩)
      intro handle' heq
      cases heq
      exact absurd rfl hw
  -- likewise of a removal
  · have looked := @lookup?_remove t other window distinct
    rw [← removed] at looked
    by_cases hw : window = other
    · subst hw
      exact .inr (.inl ⟨rfl, by simpa using looked⟩)
    · exact .inr (.inr ⟨by simp [Ne.symm hw], by simp, by simpa [hw] using looked⟩)

/-! ## The number of slots -/

/-- Growing adds slots: half as many as there are, or as many as there have to be, but never more
than there may be. -/
theorem capacity_of_grow? (h : t.grow? = some t') :
    t.capacity < t'.capacity ∧ t'.capacity ≤ maxCapacity ∧
      t'.capacity ≤ max minCapacity (t.capacity + t.capacity / 2) := by
  unfold WindowTable.grow? at h
  split at h
  · cases h
  · next room =>
    cases h
    refine ⟨?_, Nat.min_le_left .., Nat.min_le_right ..⟩
    simp only [maxCapacity, minCapacity] at room ⊢
    omega

/-- A window is added where there is a slot for it. -/
theorem Fits.room {room : WindowTable} (fits : t.Fits) (makes : t.Makes room) :
    room.size < room.capacity ∧ room.capacity ≤ maxCapacity := by
  rw [size, makes.entries, ← size]
  rcases makes with ⟨spare, rfl⟩ | ⟨full, grown⟩
  · exact ⟨Nat.lt_of_le_of_ne fits.used spare, fits.bounded⟩
  · obtain ⟨more, bounded, -⟩ := capacity_of_grow? grown
    exact ⟨full ▸ more, bounded⟩

theorem length_replace (window : WindowId) (handle : Handle) (entries : List (WindowId × Handle)) :
    (replace window handle entries).length = entries.length := by
  simpa using congrArg List.length (map_fst_replace window handle entries)

theorem Fits.insert? (fits : t.Fits) (h : t.insert? window handle = some t') : t'.Fits := by
  rcases insert?_cases h with ⟨-, rfl⟩ | ⟨-, room, makes, rfl⟩
  · exact ⟨by simpa [size, length_replace] using fits.used, fits.bounded⟩
  · obtain ⟨free, bounded⟩ := fits.room makes
    exact ⟨by simpa [size] using Nat.succ_le_of_lt free, bounded⟩

theorem Fits.shrink (fits : t.Fits) : t.shrink.Fits := by
  obtain ⟨used, bounded⟩ := fits
  unfold WindowTable.shrink
  split
  · next few =>
    refine ⟨?_, ?_⟩
    · show t.size ≤ max 1 (2 * t.size)
      omega
    · show max 1 (2 * t.size) ≤ maxCapacity
      simp only [maxCapacity] at bounded ⊢
      omega
  · exact ⟨used, bounded⟩

theorem Fits.remove (fits : t.Fits) : (t.remove window).2.Fits := by
  unfold WindowTable.remove
  split
  · exact fits
  · refine Fits.shrink ⟨Nat.le_trans ?_ fits.used, fits.bounded⟩
    exact List.eraseP_sublist.length_le

theorem Fits.change (fits : t.Fits) (c : Change) : (t.change c).Fits := by
  rcases change_cases t c with ⟨_, _, -, -, same⟩ | ⟨_, _, -, granted⟩ | ⟨window, -, removed⟩
  · rwa [same]
  · exact fits.insert? granted
  · rw [removed]
    exact fits.remove

theorem fits_replay (changes : List Change) : (replay changes).Fits :=
  replay_induction ⟨Nat.zero_le _, Nat.zero_le _⟩ (fun _ c fits => fits.change c) changes

/-- A table refuses a window exactly when it has as many others as it may have. -/
theorem Fits.insert?_eq_none_iff (fits : t.Fits) :
    t.insert? window handle = none ↔ t.lookup? window = none ∧ t.size = maxCapacity := by
  obtain ⟨used, bounded⟩ := fits
  unfold WindowTable.insert?
  cases h : t.lookup? window with
  | some old => simp
  | none =>
    -- a new window needs a slot, so the table may have to grow
    simp only [Option.map_eq_none_iff, true_and, WindowTable.grow?]
    by_cases full : t.size = t.capacity
    · by_cases most : maxCapacity ≤ t.capacity
      · simp only [if_pos full, if_pos most, true_iff]
        omega
      · simp only [if_pos full, if_neg most, reduceCtorEq, false_iff]
        omega
    · simp only [if_neg full, reduceCtorEq, false_iff]
      omega

/-! ## One more change in the history -/

theorem registers_concat_of_lt (h : n < changes.length) :
    Registers (changes ++ [c]) n window handle ↔ Registers changes n window handle := by
  rw [Registers, Registers, List.getElem?_append_left h,
    List.take_append_of_le_length (Nat.le_of_lt h)]

theorem registers_concat_last :
    Registers (changes ++ [c]) changes.length window handle ↔
      c = .insert window handle ∧ (replay changes).insert? window handle ≠ none := by
  simp [Registers]

theorem removes_concat_of_lt (h : n < changes.length) :
    Removes (changes ++ [c]) n window ↔ Removes changes n window := by
  rw [Removes, Removes, List.getElem?_append_left h]

theorem removes_concat_last :
    Removes (changes ++ [c]) changes.length window ↔ c = .remove window := by
  simp [Removes]

theorem Registers.lt (h : Registers changes n window handle) : n < changes.length :=
  (List.getElem?_eq_some_iff.mp h.1).1

theorem Removes.lt (h : Removes changes n window) : n < changes.length :=
  (List.getElem?_eq_some_iff.mp h).1

/-- What was registered is registered in the longer history, or by its last change. -/
theorem Registers.of_concat (h : Registers (changes ++ [c]) n window handle) :
    Registers changes n window handle ∨
      n = changes.length ∧ c = .insert window handle ∧
        (replay changes).insert? window handle ≠ none := by
  have hn := h.lt
  rw [List.length_append, List.length_singleton] at hn
  rcases Nat.lt_succ_iff_lt_or_eq.mp hn with hlt | rfl
  · exact .inl ((registers_concat_of_lt hlt).mp h)
  · exact .inr ⟨rfl, registers_concat_last.mp h⟩

theorem Removes.of_concat (h : Removes (changes ++ [c]) n window) :
    Removes changes n window ∨ n = changes.length ∧ c = .remove window := by
  have hn := h.lt
  rw [List.length_append, List.length_singleton] at hn
  rcases Nat.lt_succ_iff_lt_or_eq.mp hn with hlt | rfl
  · exact .inl ((removes_concat_of_lt hlt).mp h)
  · exact .inr ⟨rfl, removes_concat_last.mp h⟩

theorem Registers.concat (h : Registers changes n window handle) (c : Change) :
    Registers (changes ++ [c]) n window handle :=
  (registers_concat_of_lt h.lt).mpr h

theorem Removes.concat (h : Removes changes n window) (c : Change) :
    Removes (changes ++ [c]) n window :=
  (removes_concat_of_lt h.lt).mpr h

/-! ## Handles -/

/-- A registration goes on giving its window the handle until the window is touched. -/
theorem Holds.concat (h : Holds changes n window handle) (notRemoved : c ≠ .remove window)
    (notGiven : ∀ handle, c = .insert window handle →
      (replay changes).insert? window handle = none) :
    Holds (changes ++ [c]) n window handle := by
  refine ⟨h.registers.concat c, ?_, ?_⟩
  · intro m handle' hm later
    -- what comes last is the only change that could have undone it
    rcases later.of_concat with later | ⟨-, rfl, granted⟩
    · exact h.last m handle' hm later
    · exact granted (notGiven handle' rfl)
  · intro m hm removes
    rcases removes.of_concat with removes | ⟨-, rfl⟩
    · exact h.kept m hm removes
    · exact notRemoved rfl

/-- A registration that is granted now is the one that gives its window the handle. -/
theorem holds_concat_last (granted : (replay changes).insert? window handle ≠ none) :
    Holds (changes ++ [.insert window handle]) changes.length window handle := by
  have past {m : Nat} (hm : changes.length < m) :
      ¬ m < (changes ++ [Change.insert window handle]).length := by
    rw [List.length_append, List.length_singleton]
    omega
  exact ⟨registers_concat_last.mpr ⟨rfl, granted⟩, fun m _ hm later => past hm later.lt,
    fun m hm removes => past hm removes.lt⟩

theorem Holds.unique {n' : Nat} {handle' : Handle} (h : Holds changes n window handle)
    (h' : Holds changes n' window handle') : n = n' ∧ handle = handle' := by
  have hn : n = n' := by
    rcases Nat.lt_trichotomy n n' with hlt | heq | hgt
    · exact absurd h'.registers (h.last n' handle' hlt)
    · exact heq
    · exact absurd h.registers (h'.last n handle hgt)
  subst hn
  have same := h.registers.1.symm.trans h'.registers.1
  simp only [Option.some.injEq, Change.insert.injEq, true_and] at same
  exact ⟨rfl, same⟩

/-- A window in the table has the handle of a registration that nothing followed, and one that is
not in the table was removed after each of its registrations. -/
theorem lookup?_replay (changes : List Change) (window : WindowId) :
    (∀ handle, (replay changes).lookup? window = some handle →
      ∃ n, Holds changes n window handle) ∧
      ((replay changes).lookup? window = none → ∀ m handle, Registers changes m window handle →
        ∃ k, m < k ∧ Removes changes k window) := by
  induction changes using List.reverseRecOn with
  | nil =>
    refine ⟨fun handle h => by simp [replay, lookup?] at h, ?_⟩
    intro _ m handle registers
    exact absurd registers.lt (Nat.not_lt_zero m)
  | append_singleton changes c ih =>
    obtain ⟨holds, gone⟩ := ih
    rw [replay_concat]
    rcases lookup?_change (distinct_replay changes) c window with
      ⟨handle, rfl, granted, looked⟩ | ⟨rfl, looked⟩ | ⟨notRemoved, notGiven, looked⟩
    -- the last change gave the window its handle
    · refine ⟨fun handle' h => ⟨changes.length, ?_⟩, by simp [looked]⟩
      rw [looked, Option.some.injEq] at h
      subst h
      exact holds_concat_last granted
    -- the last change removed the window, whatever was registered before
    · refine ⟨by simp [looked], fun _ m handle registers => ⟨changes.length, ?_, ?_⟩⟩
      · rcases registers.of_concat with registers | ⟨-, heq, -⟩
        · exact registers.lt
        · cases heq
      · exact removes_concat_last.mpr rfl
    -- the last change is not about the window, so an earlier one decides
    · rw [looked]
      refine ⟨fun handle h => ?_, fun h m handle registers => ?_⟩
      · obtain ⟨n, hn⟩ := holds handle h
        exact ⟨n, hn.concat notRemoved notGiven⟩
      · rcases registers.of_concat with registers | ⟨-, rfl, granted⟩
        · obtain ⟨k, hk, removes⟩ := gone h m handle registers
          exact ⟨k, hk, removes.concat c⟩
        · exact absurd (notGiven handle rfl) granted

theorem lookup?_replay_iff :
    (replay changes).lookup? window = some handle ↔ ∃ n, Holds changes n window handle := by
  obtain ⟨holds, gone⟩ := lookup?_replay changes window
  refine ⟨holds handle, ?_⟩
  rintro ⟨n, hn⟩
  cases looked : (replay changes).lookup? window with
  | none =>
    obtain ⟨k, hk, removes⟩ := gone looked n handle hn.registers
    exact absurd removes (hn.kept k hk)
  | some handle' =>
    obtain ⟨n', hn'⟩ := holds handle' looked
    rw [(hn.unique hn').2]

/-! ## Order -/

/-- The window goes on standing where it entered, until it is removed. -/
theorem Enters.concat (h : Enters changes n window) (notRemoved : c ≠ .remove window) :
    Enters (changes ++ [c]) n window := by
  obtain ⟨⟨handle, registers⟩, first, kept⟩ := h
  refine ⟨⟨handle, registers.concat c⟩, ?_, ?_⟩
  · intro m handle' hm earlier
    obtain ⟨k, hmk, hkn, removes⟩ := first m handle' hm <|
      (registers_concat_of_lt (Nat.lt_trans hm registers.lt)).mp earlier
    exact ⟨k, hmk, hkn, removes.concat c⟩
  · intro m hm removes
    rcases removes.of_concat with removes | ⟨-, rfl⟩
    · exact kept m hm removes
    · exact notRemoved rfl

/-- A window that was not in the table enters with the change that registers it. -/
theorem Enters.last (absent : (replay changes).lookup? window = none)
    (granted : (replay changes).insert? window handle ≠ none) :
    Enters (changes ++ [.insert window handle]) changes.length window := by
  refine ⟨⟨handle, registers_concat_last.mpr ⟨rfl, granted⟩⟩, ?_, ?_⟩
  · intro m handle' hm earlier
    obtain ⟨k, hk, removes⟩ := (lookup?_replay changes window).2 absent m handle' <|
      (registers_concat_of_lt hm).mp earlier
    exact ⟨k, hk, removes.lt, removes.concat _⟩
  · intro m hm removes
    rcases removes.of_concat with removes | ⟨-, heq⟩
    · exact Nat.lt_asymm hm removes.lt
    · cases heq

theorem Enters.lt (h : Enters changes n window) : n < changes.length :=
  h.registers.elim fun _ registers => registers.lt

/-- Each of the windows entered at its place, and they stand in the order of their places. -/
structure Ordered (changes : List Change) (windows : List WindowId) (place : WindowId → Nat) :
    Prop where
  enters : ∀ window ∈ windows, Enters changes (place window) window
  sorted : (windows.map place).Pairwise (· < ·)

variable {windows : List WindowId} {place : WindowId → Nat}

theorem Ordered.sublist {kept : List WindowId} (ordered : Ordered changes windows place)
    (sub : kept.Sublist windows) (stay : ∀ window ∈ kept, c ≠ .remove window) :
    Ordered (changes ++ [c]) kept place where
  enters window h := (ordered.enters window (sub.subset h)).concat (stay window h)
  sorted := ordered.sorted.sublist (sub.map place)

/-- A window that enters comes after all the others, which entered before it. -/
theorem Ordered.append (ordered : Ordered changes windows place) (new : window ∉ windows)
    (stay : ∀ window ∈ windows, c ≠ .remove window)
    (enters : Enters (changes ++ [c]) changes.length window) :
    Ordered (changes ++ [c]) (windows ++ [window])
      (Function.update place window changes.length) := by
  have old {other : WindowId} (h : other ∈ windows) :
      Function.update place window changes.length other = place other := by
    have hne : other ≠ window := fun heq => new (heq ▸ h)
    exact Function.update_of_ne hne ..
  refine ⟨?_, ?_⟩
  · intro other h
    rcases List.mem_append.mp h with h | h
    · rw [old h]
      exact (ordered.enters other h).concat (stay other h)
    · obtain rfl := List.mem_singleton.mp h
      rwa [Function.update_self]
  -- the place of the window is behind all that the others entered at
  · rw [List.map_append, List.map_congr_left fun _ h => old h, List.map_singleton,
      Function.update_self, List.pairwise_append]
    refine ⟨ordered.sorted, List.pairwise_singleton .., ?_⟩
    intro a ha b hb
    obtain ⟨other, h, rfl⟩ := List.mem_map.mp ha
    obtain rfl := List.mem_singleton.mp hb
    exact (ordered.enters other h).lt

theorem ordered_replay (changes : List Change) :
    ∃ place, Ordered changes ((replay changes).entries.map Prod.fst) place := by
  induction changes using List.reverseRecOn with
  | nil => exact ⟨fun _ => 0, by simp [replay], by simp [replay]⟩
  | append_singleton changes c ih =>
    obtain ⟨place, ordered⟩ := ih
    rw [replay_concat]
    rcases change_cases (replay changes) c with ⟨window, handle, rfl, -, same⟩ |
      ⟨window, handle, rfl, granted⟩ | ⟨window, rfl, removed⟩
    -- a refused insertion changes nothing
    · rw [same]
      exact ⟨place, ordered.sublist (List.Sublist.refl _) (by simp)⟩
    · rcases entries_of_insert? granted with ⟨-, hentries⟩ | ⟨absent, hentries⟩
      -- a handle that is replaced leaves its window where it stands
      · rw [hentries, map_fst_replace]
        exact ⟨place, ordered.sublist (List.Sublist.refl _) (by simp)⟩
      · rw [hentries, List.map_append]
        exact ⟨_, ordered.append (not_mem_of_lookup absent) (by simp)
          (Enters.last absent (by simp [granted]))⟩
    · refine ⟨place, ordered.sublist ?_ ?_⟩
      · rw [removed, entries_remove]
        exact List.eraseP_sublist.map Prod.fst
      · -- the window that was removed is not among those that stayed
        rintro other hother heq
        cases heq
        have gone := @lookup?_remove _ window window (distinct_replay changes)
        rw [if_pos rfl, ← removed] at gone
        exact not_mem_of_lookup gone hother

/-! ## The table and its history -/

/-- A window table is a map from windows to handles that keeps the order of registration: a window
has the handle of its last registration if no removal followed, the windows that have one stand
each once and in the order in which they entered, a removal yields the handle there was, and a
registration is refused only for a new window and only when the table has 65,536 others, and then
changes nothing. -/
theorem replay_refines_history (changes : List Change) :
    (∀ window handle, (replay changes).lookup? window = some handle ↔
        ∃ n, Holds changes n window handle) ∧
      (replay changes).Distinct ∧
      (∀ window handle, (window, handle) ∈ (replay changes).entries ↔
        (replay changes).lookup? window = some handle) ∧
      (∃ place, Ordered changes ((replay changes).entries.map Prod.fst) place) ∧
      (∀ window, ((replay changes).remove window).1 = (replay changes).lookup? window) ∧
      (∀ window handle, (replay changes).insert? window handle = none ↔
        (replay changes).lookup? window = none ∧ (replay changes).size = 65536) ∧
      ∀ window handle, (replay changes).insert? window handle = none →
        replay (changes ++ [.insert window handle]) = replay changes := by
  refine ⟨fun _ _ => lookup?_replay_iff, distinct_replay changes, ?_, ordered_replay changes,
    fun _ => remove_fst, fun _ _ => (fits_replay changes).insert?_eq_none_iff, ?_⟩
  · exact fun _ _ => mem_entries_iff (distinct_replay changes)
  · intro window handle refused
    rw [replay_concat, change_insert_of_none refused]

/-- A window that is registered again keeps its place, one that was removed comes last. -/
example :
    (replay [.insert 1 10, .insert 2 20, .insert 1 11, .remove 2, .insert 3 30,
      .insert 2 21]).entries = [(1, 11), (3, 30), (2, 21)] := by decide

end WindowTable

end InputBridge
