-- SUMMARY: The fields of a structure are read back from the map that they are written to.
import InputBridge.Proofs.Wire.Value
import InputBridge.Wire.Decode

/-!
# Fields there and back

The fields of a structure are written under their names in the order in which they are
numbered, and an absent one is left out. Whoever reads such a map has every field in
its slot again.
-/

namespace InputBridge

namespace Wire

namespace Value

variable {α β : Type} {depth n max : Nat} {v : Value} {names : List String} {slots : Slots}
  {toValue : α → Value} {convert : Value → Option α}

/-! ## Writers with their readers -/

/-- What one writes the other reads, at any place where values may be `depth` deep.
Nothing is written as nil. -/
structure Inverse (depth : Nat) (toValue : α → Value) (convert : Value → Option α) : Prop where
  read : ∀ x, convert (toValue x) = some x
  canonical : ∀ x, Canonical depth (toValue x)
  ne_nil : ∀ x, toValue x ≠ .nil

theorem toNatUpTo?_ofNat (h : n ≤ max) : (ofNat n).toNatUpTo? max = some n := by
  have hn : (0 : Int) ≤ n ∧ (n : Int) ≤ max := ⟨Int.natCast_nonneg n, Int.ofNat_le.mpr h⟩
  rw [toNatUpTo?, ofNat, toInt?, Option.bind_some, if_pos hn, Int.toNat_natCast]

@[simp] theorem toUInt16?_ofUInt16 (x : UInt16) : (ofUInt16 x).toUInt16? = some x := by
  rw [toUInt16?, ofUInt16, toNatUpTo?_ofNat (Nat.le_of_lt_succ x.toNat_lt), Option.map_some,
    UInt16.ofNat_toNat]

@[simp] theorem toUInt32?_ofUInt32 (x : UInt32) : (ofUInt32 x).toUInt32? = some x := by
  rw [toUInt32?, ofUInt32, toNatUpTo?_ofNat (Nat.le_of_lt_succ x.toNat_lt), Option.map_some,
    UInt32.ofNat_toNat]

@[simp] theorem toUInt64?_ofUInt64 (x : UInt64) : (ofUInt64 x).toUInt64? = some x := by
  rw [toUInt64?, ofUInt64, toNatUpTo?_ofNat (Nat.le_of_lt_succ x.toNat_lt), Option.map_some,
    UInt64.ofNat_toNat]

theorem toInt?_ofInt (i : Int) : (ofInt i).toInt? = some i := by
  unfold ofInt
  split
  · next h => rw [ofNat, toInt?, Int.toNat_of_nonneg h]
  · rfl

@[simp] theorem toInt32?_ofInt32 (x : Int32) : (ofInt32 x).toInt32? = some x := by
  have hlow := x.le_toInt
  have hhigh := x.toInt_lt
  rw [toInt32?, ofInt32, toInt?_ofInt, Option.bind_some, if_pos (by omega), Int32.ofInt_toInt]

@[simp] theorem toBool?_bool (b : Bool) : (Value.bool b).toBool? = some b := rfl

@[simp] theorem toText?_text (s : String) : (Value.text s).toText? = some s := rfl

theorem inverse_uint16 : Inverse depth ofUInt16 toUInt16? where
  read := toUInt16?_ofUInt16
  canonical x := .unsigned (Nat.lt_trans x.toNat_lt (by decide))
  ne_nil _ := nofun

theorem inverse_uint32 : Inverse depth ofUInt32 toUInt32? where
  read := toUInt32?_ofUInt32
  canonical x := .unsigned (Nat.lt_trans x.toNat_lt (by decide))
  ne_nil _ := nofun

theorem inverse_uint64 : Inverse depth ofUInt64 toUInt64? where
  read := toUInt64?_ofUInt64
  canonical x := .unsigned x.toNat_lt
  ne_nil _ := nofun

theorem inverse_int32 : Inverse depth ofInt32 toInt32? where
  read := toInt32?_ofInt32
  canonical x := by
    have hlow := x.le_toInt
    have hhigh := x.toInt_lt
    unfold ofInt32 ofInt
    -- a number that is not negative is written as an unsigned one
    split
    · exact .unsigned (by omega)
    · exact .signed (by omega) (by omega)
  ne_nil x := by
    unfold ofInt32 ofInt
    split <;> nofun

theorem inverse_text : Inverse depth .text toText? where
  read := toText?_text
  canonical s := .text s
  ne_nil _ := nofun

theorem inverse_bytes : Inverse depth .bytes toBytes? where
  read _ := rfl
  canonical b := .bytes b
  ne_nil _ := nofun

theorem Inverse.canonical_array (h : Inverse depth toValue convert) (xs : List α) :
    Canonical (depth + 1) (.array (xs.map toValue)) := by
  refine .array fun v hv => ?_
  obtain ⟨x, -, rfl⟩ := List.mem_map.mp hv
  exact h.canonical x

/-! ## Entries for slots -/

/-- The entries that hold what is in the slots, each under its field's name. -/
def entriesOf : List String → Slots → List (Value × Value)
  | name :: names, slot :: slots => optionalField name id slot ++ entriesOf names slots
  | _, _ => []

@[simp] theorem entriesOf_nil : entriesOf [] [] = [] := rfl

@[simp] theorem entriesOf_some (name : String) (names : List String) (v : Value) (slots : Slots) :
    entriesOf (name :: names) (some v :: slots) = field name v ++ entriesOf names slots := rfl

@[simp] theorem entriesOf_map (name : String) (names : List String) (toValue : α → Value)
    (x : Option α) (slots : Slots) : entriesOf (name :: names) (x.map toValue :: slots) =
      optionalField name toValue x ++ entriesOf names slots := by
  cases x <;> rfl

theorem mem_entriesOf {e : Value × Value} (h : e ∈ entriesOf names slots) :
    ∃ name ∈ names, e.1 = .text name ∧ some e.2 ∈ slots := by
  induction names generalizing slots with
  | nil => cases h
  | cons name names ih =>
    cases slots with
    | nil => cases h
    | cons slot slots =>
      rcases List.mem_append.mp h with h | h
      -- an empty slot gives no entry
      · cases slot with
        | none => cases h
        | some v =>
          obtain rfl := List.mem_singleton.mp h
          exact ⟨name, List.mem_cons_self, rfl, List.mem_cons_self⟩
      · obtain ⟨name', hname, hkey, hvalue⟩ := ih h
        exact ⟨name', List.mem_cons_of_mem _ hname, hkey, List.mem_cons_of_mem _ hvalue⟩

/-- Whatever the slots hold is canonical. -/
def CanonicalSlots (depth : Nat) (slots : Slots) : Prop := ∀ v, some v ∈ slots → Canonical depth v

theorem CanonicalSlots.nil : CanonicalSlots depth [] := by
  intro v hv
  cases hv

theorem CanonicalSlots.cons (hv : Canonical depth v) (h : CanonicalSlots depth slots) :
    CanonicalSlots depth (some v :: slots) := by
  intro v' hv'
  rcases List.mem_cons.mp hv' with heq | hmem
  · cases heq
    exact hv
  · exact h v' hmem

theorem CanonicalSlots.cons_map (hx : Inverse depth toValue convert) (x : Option α)
    (h : CanonicalSlots depth slots) : CanonicalSlots depth (x.map toValue :: slots) := by
  intro v hv
  rcases List.mem_cons.mp hv with heq | hmem
  · obtain ⟨y, -, rfl⟩ := Option.map_eq_some_iff.mp heq.symm
    exact hx.canonical y
  · exact h v hmem

theorem canonical_entriesOf (h : CanonicalSlots depth slots) :
    Canonical (depth + 1) (.map (entriesOf names slots)) := by
  refine .map (fun e he => ?_) (fun e he => ?_)
  · obtain ⟨name, -, hkey, -⟩ := mem_entriesOf he
    exact hkey ▸ .text name
  · obtain ⟨-, -, -, hvalue⟩ := mem_entriesOf he
    exact h e.2 hvalue

/-- What is written as fields is inverted by whatever reads these. The fields may be other
ones for other values, as they are where one of them is a tag. -/
theorem inverse_fields (names : α → List String) (slots : α → Slots)
    (written : ∀ x, toValue x = .map (entriesOf (names x) (slots x)))
    (canonical : ∀ x, CanonicalSlots depth (slots x))
    (read : ∀ x, convert (.map (entriesOf (names x) (slots x))) = some x) :
    Inverse (depth + 1) toValue convert where
  read x := written x ▸ read x
  canonical x := written x ▸ canonical_entriesOf (canonical x)
  ne_nil x := by
    rw [written x]
    nofun

/-! ## Slots from entries -/

theorem findIdx?_isName {done : List String} {name : String} (h : name ∉ done)
    (rest : List String) :
    (done ++ name :: rest).findIdx? (isName · (.text name)) = some done.length := by
  have others : done.findIdx? (isName · (.text name)) = none := by
    rw [List.findIdx?_eq_none_iff]
    intro other hother
    exact beq_eq_false_iff_ne.mpr fun heq => h (heq ▸ hother)
  have self : isName name (.text name) = true := beq_self_eq_true name
  rw [List.findIdx?_append, others, List.findIdx?_cons, if_pos self]
  simp

/-- The entries are put into their slots one after the other. -/
theorem fillSlots_entriesOf {anyWidth : Bool} {todo : List String} (done : List String)
    (filled slots : Slots) (nodup : (done ++ todo).Nodup)
    (hfilled : filled.length = done.length)
    (hslots : slots.length = todo.length) :
    fillSlots anyWidth (done ++ todo) (entriesOf todo slots)
        (filled ++ List.replicate todo.length none) = some (filled ++ slots) := by
  induction todo generalizing done filled slots with
  | nil =>
    obtain rfl := List.eq_nil_of_length_eq_zero hslots
    rfl
  | cons name todo ih =>
    obtain ⟨slot, slots, rfl⟩ := List.exists_cons_of_length_eq_add_one hslots
    have hname : name ∉ done := fun hmem =>
      (List.nodup_append.mp nodup).2.2 name hmem name List.mem_cons_self rfl
    -- the head of what is to do becomes the last of what is done
    have later := ih (done ++ [name]) (filled ++ [slot]) slots
      (by simpa using nodup) (by simp [hfilled]) (by simpa using hslots)
    rw [List.append_assoc, List.append_assoc, List.append_assoc, List.singleton_append,
      List.singleton_append, List.singleton_append] at later
    cases slot with
    | none => exact later
    | some v =>
      -- the slot is still free, because the name has not come before
      have hempty : (filled ++ none :: List.replicate todo.length none).getD done.length none =
          none := by
        simp [← hfilled]
      have hset : (filled ++ none :: List.replicate todo.length none).set done.length (some v) =
          filled ++ some v :: List.replicate todo.length none := by
        rw [← hfilled, List.set_append_right _ _ (Nat.le_refl _), Nat.sub_self, List.set_cons_zero]
      rw [entriesOf_some, field, List.singleton_append, List.length_cons, List.replicate_succ]
      unfold fillSlots
      rw [keyIndex?, findIdx?_isName hname]
      simp only [Option.bind_eq_bind, Option.bind_some, hempty, hset, Option.isSome_none,
        Bool.false_eq_true, if_false]
      exact later

end Value

end Wire

end InputBridge
