-- SUMMARY: Values with their maps in another order and with more entries, at every depth.
import InputBridge.Proofs.Wire.Entries
import Mathlib.Data.List.Forall2

/-!
# Maps with more to say

A value may come with its maps in another order and with more entries in them, at every depth, as
it does from a program that knows more fields than this one. Whoever reads the fields of a structure
reads the same from both.
-/

namespace InputBridge

namespace Wire

namespace Value

/-- Entries under one key, whose values are related. -/
inductive Keyed (R : Value → Value → Prop) : Value × Value → Value × Value → Prop where
  | intro {v v' : Value} (k : Value) (h : R v v') : Keyed R (k, v) (k, v')

/-- The second value says what the first one says: in its maps the entries may stand in another
order, and there may be more of them under strings that the map did not have. -/
inductive Grows : Value → Value → Prop where
  | refl (v : Value) : Grows v v
  | array {items items' : List Value} (hitems : List.Forall₂ Grows items items') :
      Grows (.array items) (.array items')
  | map {entries grown extra entries' : List (Value × Value)}
      (hgrown : List.Forall₂ (Keyed Grows) entries grown)
      (hextra : ∀ e ∈ extra, e.1.IsString ∧ e.1 ∉ entries.map Prod.fst)
      (perm : entries'.Perm (grown ++ extra)) : Grows (.map entries) (.map entries')

/-- No entry comes in under one of the names. -/
def AddsNone (names : List String) (v v' : Value) : Prop :=
  ∀ entries entries', v = .map entries → v' = .map entries' → ∀ name ∈ names,
    Value.text name ∈ entries'.map Prod.fst → Value.text name ∈ entries.map Prod.fst

/-- The second value says what the first one says, and nothing more under the names. -/
structure Extends (names : List String) (v v' : Value) : Prop where
  grows : Grows v v'
  addsNone : AddsNone names v v'

/-- Slots with the same fields, whose values say what those of the first slots say. -/
abbrev GrownSlots : Slots → Slots → Prop := List.Forall₂ (Option.Rel Grows)

/-- Whatever says what one writes is read by the other as what was written. Nothing is written as
nil. -/
structure ReadsGrown {α : Type} (toValue : α → Value) (convert : Value → Option α) : Prop where
  read : ∀ x v, Grows (toValue x) v → convert v = some x
  ne_nil : ∀ x, toValue x ≠ .nil

variable {α : Type} {names : List String} {tag variant : String} {slots slots' : Slots} {i : Nat}
  {v v' : Value} {items : List Value} {entries : List (Value × Value)} {toValue : α → Value}
  {convert : Value → Option α}

/-! ## Values that do not grow -/

/-- A value in which no other is nested. -/
def Scalar : Value → Prop
  | .array _ | .map _ => False
  | _ => True

theorem Grows.eq_of_scalar (h : Grows v v') (scalar : v.Scalar) : v' = v := by
  cases h with
  | refl => rfl
  | array | map => cases scalar

theorem Grows.ne_nil (h : Grows v v') (hv : v ≠ .nil) : v' ≠ .nil := by
  cases h with
  | refl => exact hv
  | array | map => nofun

@[simp] theorem scalar_ofInt32 (i : Int32) : Scalar (ofInt32 i) := by
  unfold ofInt32 ofInt
  split <;> exact trivial

@[simp] theorem scalar_ofUInt16 (n : UInt16) : Scalar (ofUInt16 n) := trivial
@[simp] theorem scalar_ofUInt32 (n : UInt32) : Scalar (ofUInt32 n) := trivial
@[simp] theorem scalar_ofUInt64 (n : UInt64) : Scalar (ofUInt64 n) := trivial
@[simp] theorem scalar_text (s : String) : Scalar (.text s) := trivial
@[simp] theorem scalar_bool (b : Bool) : Scalar (.bool b) := trivial

theorem Inverse.readsGrown {depth : Nat} (h : Inverse depth toValue convert)
    (scalar : ∀ x, Scalar (toValue x)) : ReadsGrown toValue convert where
  read x v grows := by rw [grows.eq_of_scalar (scalar x), h.read]
  ne_nil := h.ne_nil

theorem readsGrown_uint32 : ReadsGrown ofUInt32 toUInt32? :=
  (@inverse_uint32 0).readsGrown fun _ => trivial

theorem readsGrown_uint16 : ReadsGrown ofUInt16 toUInt16? :=
  (@inverse_uint16 0).readsGrown fun _ => trivial

theorem readsGrown_uint64 : ReadsGrown ofUInt64 toUInt64? :=
  (@inverse_uint64 0).readsGrown fun _ => trivial

theorem readsGrown_text : ReadsGrown .text toText? := (@inverse_text 0).readsGrown fun _ => trivial

theorem readsGrown_bytes : ReadsGrown .bytes toBytes? :=
  (@inverse_bytes 0).readsGrown fun _ => trivial

/-- A list is read item by item. -/
theorem ReadsGrown.mapM (h : ReadsGrown toValue convert) {xs : List α}
    (grown : List.Forall₂ Grows (xs.map toValue) items) : items.mapM convert = some xs := by
  induction xs generalizing items with
  | nil =>
    cases grown
    rfl
  | cons x xs ih =>
    cases grown with
    | cons hx hxs => simp [h.read x _ hx, ih hxs]

/-! ## Slots -/

theorem GrownSlots.getD (h : GrownSlots slots slots') (i : Nat) :
    Option.Rel Grows (slots.getD i none) (slots'.getD i none) := by
  induction h generalizing i with
  | nil => exact .none
  | cons hslot _ ih =>
    cases i with
    | zero => exact hslot
    | succ i => exact ih i

/-- Where nothing is nested, nothing grows. -/
theorem GrownSlots.eq_of_scalar (h : GrownSlots slots slots')
    (scalar : ∀ v, some v ∈ slots → v.Scalar) : slots' = slots := by
  induction h with
  | nil => rfl
  | cons hslot _ ih =>
    rw [ih fun v hv => scalar v (List.mem_cons_of_mem _ hv)]
    cases hslot with
    | none => rfl
    | some hv => rw [hv.eq_of_scalar (scalar _ List.mem_cons_self)]

theorem need_of_grown (read : ReadsGrown toValue convert) (grown : GrownSlots slots slots') {x : α}
    (hslot : slots.getD i none = some (toValue x)) : need slots' i convert = some x := by
  have grownSlot := grown.getD i
  rw [hslot] at grownSlot
  rw [need]
  cases hv : slots'.getD i none with
  | none =>
    rw [hv] at grownSlot
    cases grownSlot
  | some v =>
    rw [hv] at grownSlot
    cases grownSlot with
    | some hgrows => exact read.read x v hgrows

theorem may_of_grown (read : ReadsGrown toValue convert)
    (grown : GrownSlots slots slots') {x : Option α}
    (hslot : slots.getD i none = x.map toValue) : may slots' i convert = some x := by
  have grownSlot := grown.getD i
  rw [hslot] at grownSlot
  rw [may]
  cases x with
  | none =>
    cases hv : slots'.getD i none with
    | none => rfl
    | some v =>
      rw [hv] at grownSlot
      cases grownSlot
  | some x =>
    cases hv : slots'.getD i none with
    | none =>
      rw [hv] at grownSlot
      cases grownSlot
    | some v =>
      rw [hv] at grownSlot
      cases grownSlot with
      | some hgrows =>
        -- a value that is there must not have become nil, which would be read as absent
        have hne := hgrows.ne_nil (read.ne_nil x)
        have hread := read.read x v hgrows
        cases v with
        | nil => exact absurd rfl hne
        | _ => exact congrArg (Option.map some) hread

/-! ## The slots of a map that has grown -/

/-- A map comes with its own entries, whose values have grown, and with others. -/
theorem Grows.of_map (h : Grows (.map entries) v) : ∃ grown extra entries', v = .map entries' ∧
    List.Forall₂ (Keyed Grows) entries grown ∧
    (∀ e ∈ extra, e.1.IsString ∧ e.1 ∉ entries.map Prod.fst) ∧
    entries'.Perm (grown ++ extra) := by
  cases h with
  | refl =>
    refine ⟨entries, [], entries, rfl, List.forall₂_same.mpr fun e _ => .intro e.1 (.refl e.2),
      nofun, ?_⟩
    rw [List.append_nil]
  | map hgrown hextra perm => exact ⟨_, _, _, rfl, hgrown, hextra, perm⟩

/-- Entries that have grown are those of slots that have grown. -/
theorem exists_grownSlots {grown : List (Value × Value)} (hlength : slots.length = names.length)
    (h : List.Forall₂ (Keyed Grows) (entriesOf names slots) grown) :
    ∃ slots', grown = entriesOf names slots' ∧ GrownSlots slots slots' := by
  induction names generalizing slots grown with
  | nil =>
    obtain rfl := List.eq_nil_of_length_eq_zero hlength
    cases h
    exact ⟨[], rfl, .nil⟩
  | cons name names ih =>
    obtain ⟨slot, slots, rfl⟩ := List.exists_cons_of_length_eq_add_one hlength
    have hslots : slots.length = names.length := by simpa using hlength
    cases slot with
    | none =>
      -- an empty slot has no entry, so it takes none
      obtain ⟨slots', rfl, grownSlots⟩ := ih hslots h
      exact ⟨none :: slots', rfl, .cons .none grownSlots⟩
    | some v =>
      cases h with
      | cons he hrest =>
        obtain ⟨slots', rfl, grownSlots⟩ := ih hslots hrest
        cases he with
        | intro _ hvalue => exact ⟨some _ :: slots', rfl, .cons (.some hvalue) grownSlots⟩

theorem Extends.of_map (h : Extends names (.map entries) v) : ∃ grown extra entries',
    v = .map entries' ∧ List.Forall₂ (Keyed Grows) entries grown ∧
    (∀ e ∈ extra, Unknown names e.1 ∧ e.1 ∉ entries.map Prod.fst) ∧
    entries'.Perm (grown ++ extra) := by
  obtain ⟨grown, extra, entries', rfl, hgrown, hextra, perm⟩ := h.grows.of_map
  refine ⟨grown, extra, entries', rfl, hgrown, fun e he => ?_, perm⟩
  obtain ⟨isString, hnew⟩ := hextra e he
  refine ⟨⟨isString, fun name hname heq => hnew ?_⟩, hnew⟩
  rw [heq]
  refine h.addsNone _ _ rfl rfl name hname ?_
  rw [← heq]
  exact List.mem_map_of_mem (perm.mem_iff.mpr (List.mem_append_right _ he))

theorem Extends.refl (names : List String) (v : Value) : Extends names v v where
  grows := .refl v
  addsNone entries entries' h h' _ _ hkey := by
    cases h.symm.trans h'
    exact hkey

/-- A map that has all the fields can get no more of them. -/
theorem Grows.extends (h : Grows (.map (entriesOf names slots)) v)
    (hlength : slots.length = names.length) (full : ∀ slot ∈ slots, slot.isSome = true) :
    Extends names (.map (entriesOf names slots)) v := by
  refine ⟨h, fun entries entries' hentries _ name hname _ => ?_⟩
  cases hentries
  -- the induction is on the names alone
  clear h
  induction names generalizing slots with
  | nil => cases hname
  | cons first names ih =>
    obtain ⟨slot, slots, rfl⟩ := List.exists_cons_of_length_eq_add_one hlength
    obtain ⟨hslot, hslots⟩ := List.forall_mem_cons.mp full
    obtain ⟨v, rfl⟩ := Option.isSome_iff_exists.mp hslot
    rw [entriesOf_some, field, List.singleton_append, List.map_cons]
    rcases List.mem_cons.mp hname with rfl | hname
    · exact List.mem_cons_self
    · exact List.mem_cons_of_mem _ (ih (by simpa using hlength) hslots hname)

/-- The fields of a map that has grown are found in their slots. -/
theorem Extends.slotsOfMap (h : Extends names (.map (entriesOf names slots)) v)
    (nodup : names.Nodup) (hlength : slots.length = names.length) :
    ∃ entries' slots', v = .map entries' ∧ slotsOfMap false names entries' = some slots' ∧
      GrownSlots slots slots' := by
  obtain ⟨grown, extra, entries', rfl, hgrown, hextra, perm⟩ := h.of_map
  obtain ⟨slots', rfl, grownSlots⟩ := exists_grownSlots hlength hgrown
  refine ⟨entries', slots', rfl, slotsOfMap_of_perm nodup ?_ perm fun e he => (hextra e he).1,
    grownSlots⟩
  rw [← grownSlots.length_eq, hlength]

/-- What is written as fields that are all there is read from whatever has these fields. -/
theorem readsGrown_fields (names : List String) (slots : α → Slots)
    (written : ∀ x, toValue x = .map (entriesOf names (slots x))) (nodup : names.Nodup)
    (hlength : ∀ x, (slots x).length = names.length)
    (full : ∀ x, ∀ slot ∈ slots x, slot.isSome = true)
    (read : ∀ x entries slots', Value.slotsOfMap false names entries = some slots' →
      GrownSlots (slots x) slots' → convert (.map entries) = some x) :
    ReadsGrown toValue convert where
  read x v h := by
    rw [written] at h
    obtain ⟨entries, slots', rfl, hslots, grown⟩ :=
      (h.extends (hlength x) (full x)).slotsOfMap nodup (hlength x)
    exact read x entries slots' hslots grown
  ne_nil x := by
    rw [written]
    nofun

/-- So are they beside a tag, which does not grow. -/
theorem Extends.untag? {variants : List String}
    (h : Extends (tag :: names) (.map (entriesOf (tag :: names) (some (.text variant) :: slots))) v)
    (anyWidth : Bool) (nodup : (tag :: names).Nodup) (hlength : slots.length = names.length)
    (hi : variants.findIdx? (isName · (.text variant)) = some i) :
    ∃ rest slots', untag? anyWidth tag variants v = some (i, .map rest) ∧
      Value.slotsOfMap false names rest = some slots' ∧ GrownSlots slots slots' := by
  obtain ⟨grown, extra, entries', rfl, hgrown, hextra, perm⟩ := h.of_map
  obtain ⟨allSlots, rfl, allGrown⟩ := exists_grownSlots (by simp [hlength]) hgrown
  obtain ⟨slot, slots', hslot, grownSlots, rfl⟩ := List.forall₂_cons_left_iff.mp allGrown
  -- the tag is there, and a text does not grow
  cases hslot with
  | some hv =>
  obtain rfl := hv.eq_of_scalar trivial
  obtain ⟨hfresh, nodup⟩ := List.nodup_cons.mp nodup
  -- no other entry has the tag for its name
  have untagged : ∀ e ∈ entriesOf names slots' ++ extra, isName tag e.1 = false := by
    intro e he
    rcases List.mem_append.mp he with he | he
    · obtain ⟨name, hname, hkey, -⟩ := mem_entriesOf he
      rw [hkey]
      exact beq_eq_false_iff_ne.mpr fun heq => hfresh (heq ▸ hname)
    · exact (hextra e he).1.isName List.mem_cons_self
  obtain ⟨rest, hsplit, hrest⟩ := splitTag_of_perm perm untagged
  have index : variantIndex? anyWidth variants (.text variant) = some i := by
    rw [variantIndex?, keyIndex?, hi]
    rfl
  refine ⟨rest, slots', by simp [Value.untag?, hsplit, index], ?_, grownSlots⟩
  refine slotsOfMap_of_perm nodup (by rw [← grownSlots.length_eq, hlength]) hrest fun e he => ?_
  obtain ⟨isString, hne⟩ := (hextra e he).1
  exact ⟨isString, fun name hname => hne name (List.mem_cons_of_mem _ hname)⟩

end Value

end Wire

end InputBridge
