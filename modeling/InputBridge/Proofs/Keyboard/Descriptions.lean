-- SUMMARY: A description has the layout code of the longest entry that it begins with.
import InputBridge.Keyboard.Language

/-!
# Layout codes of descriptions

A description is looked up by how it begins, and the first entry that fits is taken. No entry of
the table is the beginning of a later one. Of two beginnings of the same text the shorter one is a
beginning of the other, so the first entry that fits is also the longest, whatever the description
is.
-/

namespace InputBridge

variable {α : Type} {table rest : List (String × α)} {description : String}
  {head entry : String × α}

/-! ## Tables of beginnings -/

/-- The description begins with the text of the entry. -/
def BeginsWith (description : String) (entry : String × α) : Prop :=
  entry.1.toList <+: description.toList

instance : Decidable (BeginsWith description entry) :=
  decidable_of_iff _ List.isPrefixOf_iff_prefix

/-- No entry is the beginning of a later one. -/
def SpecificFirst (table : List (String × α)) : Prop :=
  table.Pairwise fun earlier later => ¬BeginsWith later.1 earlier

instance : Decidable (SpecificFirst table) :=
  inferInstanceAs (Decidable (table.Pairwise fun earlier later => ¬BeginsWith later.1 earlier))

/-- Of the entries that the description begins with, this one is the longest. -/
structure LongestBeginning (table : List (String × α)) (description : String)
    (entry : String × α) : Prop where
  mem : entry ∈ table
  begins : BeginsWith description entry
  longest : ∀ other ∈ table, BeginsWith description other → other.1.length ≤ entry.1.length

theorem longestBeginning_self (hmem : entry ∈ table) : LongestBeginning table entry.1 entry := by
  refine ⟨hmem, List.prefix_rfl, fun other _ hbegins => ?_⟩
  rw [← String.length_toList, ← String.length_toList]
  exact hbegins.length_le

/-- What fits a description together with an earlier entry is shorter than that entry. -/
theorem SpecificFirst.length_lt (specific : SpecificFirst (head :: rest)) (hmem : entry ∈ rest)
    (hhead : BeginsWith description head) (hentry : BeginsWith description entry) :
    entry.1.length < head.1.length := by
  refine Nat.lt_of_not_le fun hle => ?_
  -- of two beginnings of the description the shorter one begins the other
  rw [← String.length_toList, ← String.length_toList] at hle
  have begins : BeginsWith entry.1 head := List.prefix_of_prefix_length_le hhead hentry hle
  exact (List.pairwise_cons.mp specific).1 entry hmem begins

theorem longestBeginning_cons_of_begins (specific : SpecificFirst (head :: rest))
    (hhead : BeginsWith description head) :
    LongestBeginning (head :: rest) description entry ↔ entry = head := by
  constructor
  · intro h
    rcases List.mem_cons.mp h.mem with rfl | hmem
    · rfl
    · have shorter := specific.length_lt hmem hhead h.begins
      exact absurd (h.longest head List.mem_cons_self hhead) (Nat.not_le_of_lt shorter)
  · rintro rfl
    refine ⟨List.mem_cons_self, hhead, fun other hother hbegins => ?_⟩
    rcases List.mem_cons.mp hother with rfl | hmem
    · exact Nat.le_refl _
    · exact Nat.le_of_lt (specific.length_lt hmem hhead hbegins)

theorem longestBeginning_cons_of_not_begins (hhead : ¬BeginsWith description head) :
    LongestBeginning (head :: rest) description entry ↔
      LongestBeginning rest description entry := by
  constructor
  · intro h
    refine ⟨?_, h.begins, fun other hother => h.longest other (List.mem_cons_of_mem head hother)⟩
    rcases List.mem_cons.mp h.mem with rfl | hmem
    · exact absurd h.begins hhead
    · exact hmem
  · intro h
    refine ⟨List.mem_cons_of_mem head h.mem, h.begins, fun other hother hbegins => ?_⟩
    rcases List.mem_cons.mp hother with rfl | hmem
    · exact absurd hbegins hhead
    · exact h.longest other hmem hbegins

/-- The first entry that fits is the longest that does. -/
theorem SpecificFirst.find?_eq_some_iff (specific : SpecificFirst table) :
    table.find? (BeginsWith description ·) = some entry ↔
      LongestBeginning table description entry := by
  -- an entry at the head that fits is longer than all that fit behind it; one that does not fit
  -- plays no part
  induction table with
  | nil => exact iff_of_false nofun fun h => List.not_mem_nil h.mem
  | cons head rest ih =>
    by_cases hhead : BeginsWith description head
    · rw [List.find?_cons_of_pos (by simpa using hhead), Option.some.injEq,
        longestBeginning_cons_of_begins specific hhead, eq_comm]
    · rw [List.find?_cons_of_neg (by simpa using hhead),
        longestBeginning_cons_of_not_begins hhead, ih (List.pairwise_cons.mp specific).2]

/-! ## Codes of descriptions -/

theorem specificFirst_describedCodes : SpecificFirst describedCodes := by
  decide +kernel

theorem codeOfDescription?_eq_find? (description : String) :
    codeOfDescription? description =
      (describedCodes.find? (BeginsWith description ·)).map (·.2) := by
  have begins (entry : String × String) : entry.1.toList.isPrefixOf description.toList =
      decide (BeginsWith description entry) := by
    rw [Bool.eq_iff_iff, List.isPrefixOf_iff_prefix, decide_eq_true_iff, BeginsWith]
  simp only [codeOfDescription?, begins]

theorem codeOfDescription?_eq_some_iff {code : String} :
    codeOfDescription? description = some code ↔
      ∃ start, LongestBeginning describedCodes description (start, code) := by
  rw [codeOfDescription?_eq_find?, Option.map_eq_some_iff]
  constructor
  · rintro ⟨⟨start, _⟩, hfound, rfl⟩
    exact ⟨start, specificFirst_describedCodes.find?_eq_some_iff.mp hfound⟩
  · rintro ⟨start, hlongest⟩
    exact ⟨(start, code), specificFirst_describedCodes.find?_eq_some_iff.mpr hlongest, rfl⟩

theorem codeOfDescription?_eq_none_iff :
    codeOfDescription? description = none ↔
      ∀ entry ∈ describedCodes, ¬BeginsWith description entry := by
  simp only [codeOfDescription?_eq_find?, Option.map_eq_none_iff, List.find?_eq_none,
    decide_eq_true_iff]

/-- A description has the code of the longest entry that it begins with, and none exactly if it
begins with no entry. No entry stands behind one that is its beginning, and each is found by its
own text. -/
theorem codeOfDescription?_longest :
    (∀ description code, codeOfDescription? description = some code ↔
      ∃ start, LongestBeginning describedCodes description (start, code)) ∧
    (∀ description, codeOfDescription? description = none ↔
      ∀ entry ∈ describedCodes, ¬BeginsWith description entry) ∧
    SpecificFirst describedCodes ∧
    ∀ entry ∈ describedCodes, codeOfDescription? entry.1 = some entry.2 := by
  refine ⟨fun description code => codeOfDescription?_eq_some_iff,
    fun description => codeOfDescription?_eq_none_iff, specificFirst_describedCodes, ?_⟩
  intro entry hmem
  exact codeOfDescription?_eq_some_iff.mpr ⟨entry.1, longestBeginning_self hmem⟩

/-- The closing bracket is part of the entry for Switzerland, so a variant of that layout is taken
for German. -/
theorem swissVariant_longest :
    LongestBeginning describedCodes "German (Switzerland, legacy)" ("German", "de") ∧
    codeOfDescription? "German (Switzerland, legacy)" = some "de" ∧
    ("German (Switzerland)", "ch") ∈ describedCodes ∧
    codeOfDescription? "German (Switzerland)" = some "ch" := by
  obtain ⟨hsome, -, -, hself⟩ := codeOfDescription?_longest
  have longest : LongestBeginning describedCodes "German (Switzerland, legacy)" ("German", "de") :=
    ⟨by decide +kernel, by decide +kernel, by decide +kernel⟩
  have swiss : ("German (Switzerland)", "ch") ∈ describedCodes := by decide +kernel
  exact ⟨longest, (hsome "German (Switzerland, legacy)" "de").mpr ⟨"German", longest⟩, swiss,
    hself ("German (Switzerland)", "ch") swiss⟩

end InputBridge
