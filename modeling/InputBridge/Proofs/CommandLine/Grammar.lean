-- SUMMARY: What every argument of a command keeps holds of what the command reads.
import InputBridge.CommandLine.Grammar
import InputBridge.Proofs.Faults

/-!
# What a command reads

A command reads its arguments onto a value, one after the other. So what holds of the value at the
start, and is kept by every flag and by every argument that can be given, holds of what is read,
in whatever order and number they are given.
-/

namespace InputBridge

namespace CommandLine

variable {α β : Type} {P : α → Prop} {c : Command α} {p p' : Progress α} {slot : Slot α}
  {arg : String}

/-- Taking in a value of the argument keeps `P`. -/
def Slot.Keeps (slot : Slot α) (P : α → Prop) : Prop :=
  ∀ v a a', slot.store v a = .ok a' → P a → P a'

/-- All that can be given keeps `P`. -/
structure Command.Keeps (c : Command α) (P : α → Prop) : Prop where
  flags : ∀ flag ∈ c.flags, ∀ a, P a → P (flag.2 a)
  options : ∀ slot ∈ c.options, slot.Keeps P
  positionals : ∀ slot ∈ c.positionals, slot.Keeps P

/-- What has been read has `P`, and the argument that is pending keeps it. -/
structure Progress.Has (p : Progress α) (P : α → Prop) : Prop where
  value : P p.value
  pending : ∀ slot v, p.pending = some (slot, v) → slot.Keeps P

/-! ## Taking in -/

theorem Progress.Has.take {v : String} (has : p.Has P) (hslot : slot.Keeps P)
    (h : p.take slot v = .ok p') : p'.Has P := by
  unfold Progress.take at h
  split at h
  · obtain ⟨_, hfault, -⟩ := of_bind_eq_ok h
    cases hfault
  · obtain ⟨value, hstore, h⟩ := of_bind_eq_ok h
    cases h
    exact ⟨hslot v _ _ hstore has.value, has.pending⟩

theorem Progress.Has.settle (has : p.Has P) (h : p.settle = .ok p') : p'.Has P := by
  unfold Progress.settle at h
  split at h
  · cases h
    exact has
  · cases h
  · next slot v hpending =>
    have settled : Progress.Has { p with pending := none } P := ⟨has.value, nofun⟩
    exact settled.take (has.pending slot _ hpending) h

theorem Progress.Has.raise {flag : String} {set : α → α} (has : p.Has P)
    (hset : ∀ a, P a → P (set a)) (h : p.raise flag set = .ok p') : p'.Has P := by
  unfold Progress.raise at h
  split at h
  · cases h
  · cases h
    exact ⟨hset _ has.value, has.pending⟩

/-! ## One argument -/

theorem Progress.Has.place {afterDivider : Bool} (has : p.Has P) (keeps : c.Keeps P)
    (h : c.place p afterDivider arg = .ok p') : p'.Has P := by
  unfold Command.place at h
  split at h
  · cases h
  · next slot hslot =>
    obtain ⟨settled, hsettle, rfl⟩ := of_map_eq_ok h
    refine ⟨(has.settle hsettle).value, fun other v hpending => ?_⟩
    cases hpending
    exact keeps.positionals slot (List.mem_of_getElem? hslot)

theorem Progress.Has.name {long : String} {value : Option String} (has : p.Has P)
    (keeps : c.Keeps P) (h : c.name p arg long value = .ok p') : p'.Has P := by
  unfold Command.name at h
  split at h
  · next slot hfound =>
    have hslot := keeps.options slot (List.mem_of_find?_eq_some hfound)
    split at h
    · obtain ⟨settled, hsettle, h⟩ := of_bind_eq_ok h
      exact (has.settle hsettle).take hslot h
    · obtain ⟨settled, hsettle, rfl⟩ := of_map_eq_ok h
      refine ⟨(has.settle hsettle).value, fun other v hpending => ?_⟩
      cases hpending
      exact hslot
  · split at h
    · split at h
      · exact has.place keeps h
      · cases h
    · cases h
    · next set hset =>
      obtain ⟨⟨_, _⟩, hfound, rfl⟩ := Option.map_eq_some_iff.mp hset
      obtain ⟨settled, hsettle, h⟩ := of_bind_eq_ok h
      exact (has.settle hsettle).raise
        (keeps.flags _ (List.mem_of_find?_eq_some hfound)) h
    · obtain ⟨_, -, h⟩ := of_bind_eq_ok h
      cases h

theorem Progress.Has.letters {letters : List Char} (has : p.Has P) (keeps : c.Keeps P)
    (h : c.letters p arg letters = .ok p') : p'.Has P := by
  unfold Command.letters at h
  split at h
  · exact has.place keeps h
  split at h
  · obtain ⟨_, -, h⟩ := of_bind_eq_ok h
    cases h
  · cases h

theorem Progress.Has.word (has : p.Has P) (keeps : c.Keeps P)
    (h : c.word p arg = .ok p') : p'.Has P := by
  unfold Command.word at h
  split at h
  · next slot hpending =>
    cases h
    refine ⟨has.value, fun other v heq => ?_⟩
    cases heq
    exact has.pending slot none hpending
  · exact has.place keeps h

/-! ## All arguments -/

theorem Progress.Has.scan {afterDivider : Bool} {args : List String}
    {rest : Option (String × List String)} (has : p.Has P) (keeps : c.Keeps P)
    (h : c.scan afterDivider args p = .ok (p', rest)) : p'.Has P := by
  -- whatever the first argument is, what it leaves has `P` before the others are read
  induction args generalizing p afterDivider with
  | nil =>
    cases h
    exact has
  | cons arg args ih =>
    cases afterDivider with
    | true =>
      obtain ⟨next, hplace, h⟩ := of_bind_eq_ok h
      exact ih (has.place keeps hplace) h
    | false =>
      unfold Command.scan at h
      split at h
      · cases h
        exact has
      split at h
      · exact ih has h
      · obtain ⟨next, hname, h⟩ := of_bind_eq_ok h
        exact ih (has.name keeps hname) h
      · obtain ⟨next, hletters, h⟩ := of_bind_eq_ok h
        exact ih (has.letters keeps hletters) h
      · obtain ⟨next, hword, h⟩ := of_bind_eq_ok h
        exact ih (has.word keeps hword) h

/-- The value is read from the arguments up to a subcommand, and the result is that of the
subcommand. -/
theorem Command.read_eq_ok {start a : α} {present : Bool} {args : List String} {b : Option β}
    {sub : String → List String → Except Fault β} (h : c.read start present sub args = .ok (a, b)) :
    ∃ p settled rest, c.scan false args { value := start } = .ok (p, rest) ∧
      p.settle = .ok settled ∧ settled.value = a ∧
      ∀ b', b = some b' → ∃ word words, rest = some (word, words) ∧ sub word words = .ok b' := by
  obtain ⟨⟨p, rest⟩, hscan, h⟩ := of_bind_eq_ok h
  dsimp only at h
  -- both ways go on in the same way, with the result that there is by then
  have ends {result : Option β} (h : (do
      let p ← p.settle
      if result.isNone && !c.subcommands.isEmpty then
        .error (if p.given.isEmpty && !present then Fault.nothingGiven else .missingSubcommand)
      else if c.allRequired && p.position < c.positionals.length then .error .missingArgument
      else return (p.value, result)) = Except.ok (a, b)) :
      b = result ∧ ∃ settled, p.settle = .ok settled ∧ settled.value = a := by
    obtain ⟨settled, hsettle, h⟩ := of_bind_eq_ok h
    split at h
    · cases h
    split at h
    · cases h
    · cases h
      exact ⟨rfl, settled, hsettle, rfl⟩
  split at h
  · obtain ⟨result, hresult, h⟩ := of_bind_eq_ok h
    obtain ⟨rfl, settled, hsettle, hvalue⟩ := ends h
    cases hresult
    exact ⟨p, settled, none, hscan, hsettle, hvalue, nofun⟩
  · next word words =>
    obtain ⟨result, hresult, h⟩ := of_bind_eq_ok h
    obtain ⟨rfl, settled, hsettle, hvalue⟩ := ends h
    obtain ⟨b', hsub, rfl⟩ := of_map_eq_ok hresult
    refine ⟨p, settled, _, hscan, hsettle, hvalue, fun other heq => ?_⟩
    cases heq
    exact ⟨word, words, rfl, hsub⟩

/-- What holds of the value at the start and is kept by all that can be given holds of the value
that is read. -/
theorem Command.Keeps.readAll {start a : α} {args : List String} (keeps : c.Keeps P) (h : P start)
    (hread : c.readAll start args = .ok a) : P a := by
  obtain ⟨⟨value, result⟩, hfirst, rfl⟩ := of_map_eq_ok hread
  obtain ⟨p, settled, rest, hscan, hsettle, rfl, -⟩ := Command.read_eq_ok hfirst
  have begun : Progress.Has { value := start } P := ⟨h, nofun⟩
  exact ((begun.scan keeps hscan).settle hsettle).value

end CommandLine

end InputBridge
