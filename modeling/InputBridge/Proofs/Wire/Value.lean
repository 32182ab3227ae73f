-- SUMMARY: Canonical values are read back, and what follows them is left alone.
import InputBridge.Proofs.Wire.Grammar

/-!
# Values there and back

Whoever reads what was written has the value again, and what follows it is left alone.
This holds of every canonical value that is not nested too deeply and whose lengths fit
into four bytes: each number is read back with the width of its shortest form.
-/

namespace InputBridge.Wire

variable {n : Nat}

namespace Value

variable {depth : Nat}

/-! ## Numbers and lengths -/

theorem spells_encodeNat (h : n < 2 ^ 64) : Spells depth (ofNat n) (encodeNat n) := by
  -- the shortest form, and the width that goes with it
  unfold encodeNat ofNat
  split
  · next hn =>
    rw [widthOf, if_pos (by omega)]
    exact .small hn
  split
  · next hn =>
    rw [widthOf, if_pos hn]
    exact .unsigned (by decide) hn
  split
  · next h1 h2 =>
    rw [widthOf, if_neg h1, if_pos h2]
    exact .unsigned (by decide) h2
  split
  · next h1 h2 h3 =>
    rw [widthOf, if_neg h1, if_neg h2, if_pos h3]
    exact .unsigned (by decide) h3
  · next h1 h2 h3 =>
    rw [widthOf, if_neg h1, if_neg h2, if_neg h3]
    exact .unsigned (by decide) h

theorem spells_encodeInt {i : Int} (hlow : -2 ^ 63 ≤ i) (hhigh : i < 0) :
    Spells depth (.signed i) (encodeInt i) := by
  have wide {lead : UInt8} {width bound : Nat} (hlead : (lead, width) ∈ signedLeads)
      (hbound : bound = 2 ^ (8 * width)) (hi : -(2 ^ (8 * width - 1) : Nat) ≤ i)
      (hhalf : 2 ^ (8 * width - 1) ≤ bound) :
      Spells depth (.signed i) (lead :: bigEndian width (bound + i).toNat) := by
    have hcomplement : twosComplement width i = (bound + i).toNat := by
      rw [twosComplement, ← hbound, ← Int.add_emod_right, Int.emod_eq_of_lt (by omega) (by omega),
        Int.add_comm]
    rw [← hcomplement]
    exact .signed hlead hi (by omega)
  unfold encodeInt
  rw [if_neg (by omega)]
  split
  · next h => exact .negative h hhigh
  split
  · next h => exact wide (by decide) rfl h (by decide)
  split
  · next h => exact wide (by decide) rfl h (by decide)
  split
  · next h => exact wide (by decide) rfl h (by decide)
  · exact wide (by decide) rfl hlow (by decide)

theorem head_textHead (h : n < 2 ^ 32) : Head 0xa0 32 textLeads n (textHead n) := by
  unfold textHead
  split
  · next hn => exact .short hn
  split
  · next hn => exact .wide (by decide) hn
  split
  · next hn => exact .wide (by decide) hn
  · exact .wide (by decide) h

theorem head_bytesHead (h : n < 2 ^ 32) : Head 0xc4 0 bytesLeads n (bytesHead n) := by
  unfold bytesHead
  split
  · next hn => exact .wide (by decide) hn
  split
  · next hn => exact .wide (by decide) hn
  · exact .wide (by decide) h

theorem head_arrayHead (h : n < 2 ^ 32) : Head 0x90 16 arrayLeads n (arrayHead n) := by
  unfold arrayHead
  split
  · next hn => exact .short hn
  split
  · next hn => exact .wide (by decide) hn
  · exact .wide (by decide) h

theorem head_mapHead (h : n < 2 ^ 32) : Head 0x80 16 mapLeads n (mapHead n) := by
  unfold mapHead
  split
  · next hn => exact .short hn
  split
  · next hn => exact .wide (by decide) hn
  · exact .wide (by decide) h

/-! ## Nested values -/

theorem encodeItems_eq (items : List Value) : encodeItems items = items.flatMap encode := by
  induction items with
  | nil => rfl
  | cons v items ih => rw [encodeItems, List.flatMap_cons, ih]

theorem encodeEntries_eq (entries : List (Value × Value)) :
    encodeEntries entries = entries.flatMap fun e => e.1.encode ++ e.2.encode := by
  induction entries with
  | nil => rfl
  | cons e entries ih => rw [encodeEntries, List.flatMap_cons, ih, List.append_assoc]

theorem spells_array {items : List Value} (h : ∀ v ∈ items, Spells depth v v.encode)
    (hlength : items.length < 2 ^ 32) :
    Spells (depth + 1) (.array items) (encode (.array items)) := by
  have spells := @Spells.array depth _ (items.map fun v => (v, v.encode))
    (List.forall_mem_map.mpr h) (by simpa using head_arrayHead hlength)
  simpa [encode, encodeItems_eq, List.map_map, List.flatMap_map, Function.comp_def] using spells

theorem spells_map {entries : List (Value × Value)}
    (hkeys : ∀ e ∈ entries, Spells depth e.1 e.1.encode)
    (hvalues : ∀ e ∈ entries, Spells depth e.2 e.2.encode) (hlength : entries.length < 2 ^ 32) :
    Spells (depth + 1) (.map entries) (encode (.map entries)) := by
  have spells := @Spells.map depth _
    (entries.map fun e => ((e.1, e.1.encode), (e.2, e.2.encode)))
    (List.forall_mem_map.mpr hkeys) (List.forall_mem_map.mpr hvalues)
    (by simpa using head_mapHead hlength)
  simpa [encode, encodeEntries_eq, List.map_map, List.flatMap_map, Function.comp_def] using spells

/-! ## All values -/

/-- The values that are read as they were written, nested up to `depth` deep: numbers
have the widths of their shortest forms, and only negative ones are signed. -/
inductive Canonical : (depth : Nat) → Value → Prop where
  | nil {depth : Nat} : Canonical depth .nil
  | bool {depth : Nat} (b : Bool) : Canonical depth (.bool b)
  | unsigned {depth n : Nat} : n < 2 ^ 64 → Canonical depth (.ofNat n)
  | signed {depth : Nat} {i : Int} : -2 ^ 63 ≤ i → i < 0 → Canonical depth (.signed i)
  | text {depth : Nat} (s : String) : Canonical depth (.text s)
  | bytes {depth : Nat} (b : List UInt8) : Canonical depth (.bytes b)
  | array {depth : Nat} {items : List Value} :
      (∀ v ∈ items, Canonical depth v) → Canonical (depth + 1) (.array items)
  | map {depth : Nat} {entries : List (Value × Value)} :
      (∀ e ∈ entries, Canonical depth e.1) → (∀ e ∈ entries, Canonical depth e.2) →
      Canonical (depth + 1) (.map entries)

/-- What is written of a part is no longer than what is written of the whole. -/
theorem length_le_flatMap {α : Type} (enc : α → List UInt8) {xs : List α} {x : α} (hx : x ∈ xs) :
    (enc x).length ≤ (xs.flatMap enc).length := by
  induction xs with
  | nil => cases hx
  | cons y xs ih =>
    rw [List.flatMap_cons, List.length_append]
    rcases List.mem_cons.mp hx with rfl | hx
    · exact Nat.le_add_right _ _
    · exact Nat.le_trans (ih hx) (Nat.le_add_left _ _)

theorem count_le_flatMap {α : Type} {enc : α → List UInt8} (h : ∀ x, 0 < (enc x).length)
    (xs : List α) : xs.length ≤ (xs.flatMap enc).length := by
  induction xs with
  | nil => exact Nat.le_refl 0
  | cons x xs ih =>
    have hx := h x
    rw [List.flatMap_cons, List.length_append, List.length_cons]
    omega

/-- Whatever is written has a leading byte. -/
theorem encode_length_pos (v : Value) : 0 < v.encode.length := by
  cases v with
  | nil | bool | float32 | float64 => simp [encode]
  | unsigned | signed | text | bytes | array | map | extension =>
    -- one case for each width of the head
    simp only [encode, encodeNat, encodeInt, textHead, bytesHead, arrayHead, mapHead,
      extensionHead]
    repeat' split
    all_goals simp only [List.length_append, List.length_cons]; omega

theorem spells_encode {v : Value} (canonical : v.Canonical depth) (h : v.encode.length < 2 ^ 32) :
    Spells depth v v.encode := by
  induction canonical with
  | nil => exact .nil
  | bool b => exact .bool b
  | unsigned hn => exact spells_encodeNat hn
  | signed hlow hhigh => exact spells_encodeInt hlow hhigh
  | text s =>
    rw [encode, List.length_append] at h
    exact .text s (head_textHead (by omega))
  | bytes b =>
    rw [encode, List.length_append] at h
    exact .bytes b (head_bytesHead (by omega))
  | @array depth items _ ih =>
    rw [encode, encodeItems_eq, List.length_append] at h
    refine spells_array (fun v hv => ih v hv ?_) ?_
    · have := length_le_flatMap encode hv
      omega
    · have := count_le_flatMap encode_length_pos items
      omega
  | @map depth entries _ _ ihKeys ihValues =>
    rw [encode, encodeEntries_eq, List.length_append] at h
    -- an entry is no shorter than its key or its value
    have entry : ∀ e ∈ entries, e.1.encode.length + e.2.encode.length < 2 ^ 32 := by
      intro e he
      have := length_le_flatMap (fun e => e.1.encode ++ e.2.encode) he
      rw [List.length_append] at this
      omega
    refine spells_map (fun e he => ihKeys e he ?_) (fun e he => ihValues e he ?_) ?_
    · have := entry e he
      omega
    · have := entry e he
      omega
    · have positive : ∀ e : Value × Value, 0 < (e.1.encode ++ e.2.encode).length := by
        intro e
        have := encode_length_pos e.1
        rw [List.length_append]
        omega
      have := count_le_flatMap positive entries
      omega

theorem read_encode {v : Value} (canonical : v.Canonical depth) (h : v.encode.length < 2 ^ 32)
    (rest : List UInt8) : read depth (v.encode ++ rest) = some (v, rest) :=
  (spells_encode canonical h).read rest

end Value

end InputBridge.Wire
