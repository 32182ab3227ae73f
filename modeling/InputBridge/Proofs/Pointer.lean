-- SUMMARY: An axis value is read at the rank of its axis, and packed values are read back.
import InputBridge.Pointer
import Mathlib.Data.Nat.Bitwise

/-!
# Values of axes

Raw motion has values only for the axes whose mask bit is set, and they stand in the order of the
axes. So the value of an axis is found at its rank: as many values are in front of it as there are
bits set below its own. Whatever values the axes had when they were packed in this way, reading an
axis gives its value back.
-/

namespace InputBridge

namespace Pointer

variable {mask : List UInt32} {values : List Fixed32} {word : UInt32} {words n : Nat}
  {assigned : Nat → Option Fixed32}

/-! ## Masks -/

/-- Whether a bit of the mask is set. Beyond the last word there is none. -/
def hasBit (mask : List UInt32) (n : Nat) : Bool :=
  mask[n / 32]?.any (·.toNat.testBit (n % 32))

/-- The number of bits of the mask that are set below a bit. -/
def rank (mask : List UInt32) (n : Nat) : Nat :=
  (List.range n).countP (hasBit mask)

theorem lt_of_hasBit (h : hasBit mask n = true) : n < 32 * mask.length := by
  by_contra hle
  have hbeyond : mask[n / 32]? = none := List.getElem?_eq_none (by omega)
  rw [hasBit, hbeyond] at h
  cases h

theorem hasBit_cons_of_lt (hn : n < 32) : hasBit (word :: mask) n = word.toNat.testBit n := by
  unfold hasBit
  rw [Nat.div_eq_of_lt hn, Nat.mod_eq_of_lt hn]
  rfl

theorem hasBit_cons_add : hasBit (word :: mask) (32 + n) = hasBit mask n := by
  have hdiv : (32 + n) / 32 = n / 32 + 1 := by omega
  have hmod : (32 + n) % 32 = n % 32 := by omega
  simp [hasBit, hdiv, hmod]

/-- The bits of the first word come first, and those of the others lie 32 higher. -/
theorem maskBits_eq (base : Nat) (mask : List UInt32) :
    maskBits base mask =
      ((List.range (32 * mask.length)).filter (hasBit mask)).map (base + ·) := by
  induction mask generalizing base with
  | nil => rfl
  | cons word mask ih =>
    -- the bits of the first word, then those of the others
    have hlength : 32 * (word :: mask).length = 32 + 32 * mask.length := by
      rw [List.length_cons]
      omega
    have hfirst : (List.range 32).filter (hasBit (word :: mask)) =
        (List.range 32).filter word.toNat.testBit := by
      apply List.filter_congr
      intro n hn
      exact hasBit_cons_of_lt (List.mem_range.mp hn)
    have hrest : hasBit (word :: mask) ∘ (32 + ·) = hasBit mask := funext fun n => hasBit_cons_add
    rw [maskBits, setBits, ih, hlength, List.range_add, List.filter_append, List.filter_map, hfirst,
      hrest, List.map_append, List.map_map]
    simp only [Function.comp_def, Nat.add_assoc]

/-! ## Lists with gaps -/

/-- What a number stands for comes after as many others as smaller numbers stand for something. -/
theorem getElem?_filterMap_range {α : Type} {f : Nat → Option α} {a : α} {m : Nat}
    (hf : f n = some a) (hn : n < m) :
    ((List.range m).filterMap f)[(List.range n).countP fun i => (f i).isSome]? = some a := by
  obtain ⟨k, rfl⟩ := Nat.exists_eq_add_of_lt hn
  have hlength : ((List.range n).filterMap f).length =
      (List.range n).countP fun i => (f i).isSome := List.length_filterMap_eq_countP
  rw [Nat.add_assoc, List.range_add, List.filterMap_append,
    List.getElem?_append_right hlength.le, hlength, Nat.sub_self, List.range_succ_eq_map]
  simp [hf]

theorem lookup_zip_of_getElem? {l : List Nat} {i : Nat} (hl : l.Nodup) (hi : l[i]? = some n) :
    (l.zip values).lookup n = values[i]? := by
  induction l generalizing i values with
  | nil => simp at hi
  | cons m l ih =>
    cases values with
    | nil => simp
    | cons value values =>
      cases i with
      | zero =>
        obtain rfl : m = n := by simpa using hi
        simp
      | succ i =>
        -- the number is found later, so it is not the first one
        have hlater : l[i]? = some n := by simpa using hi
        have hne : (n == m) = false := by
          have hmem := List.mem_of_getElem? hlater
          simp only [beq_eq_false_iff_ne]
          rintro rfl
          exact (List.nodup_cons.mp hl).1 hmem
        rw [List.zip_cons_cons, List.lookup_cons, hne, List.getElem?_cons_succ]
        exact ih (List.nodup_cons.mp hl).2 hlater

theorem lookup_zip_of_not_mem {l : List Nat} (h : n ∉ l) : (l.zip values).lookup n = none := by
  apply List.lookup_eq_none_iff.mpr
  rintro ⟨m, value⟩ hmem
  have hm := (List.of_mem_zip hmem).1
  simp only [bne_iff_ne]
  rintro rfl
  exact h hm

/-! ## Reading -/

/-- An axis whose bit is set has the value at its rank, if there are so many. -/
theorem axisValue?_eq_ite (mask : List UInt32) (values : List Fixed32) (number : UInt16) :
    axisValue? mask values number =
      if hasBit mask number.toNat then values[rank mask number.toNat]? else none := by
  have hbits : maskBits 0 mask = (List.range (32 * mask.length)).filter (hasBit mask) := by
    rw [maskBits_eq]
    simp
  rw [axisValue?, hbits]
  split
  -- the place of a set bit among all set bits is its rank
  · next hbit =>
    have hnodup : ((List.range (32 * mask.length)).filter (hasBit mask)).Nodup :=
      List.nodup_range.filter _
    apply lookup_zip_of_getElem? hnodup
    have hguard : Option.guard (hasBit mask ·) number.toNat = some number.toNat := by simpa using hbit
    have hposition := getElem?_filterMap_range hguard (lt_of_hasBit hbit)
    rw [List.filterMap_eq_filter] at hposition
    simpa [rank] using hposition
  · next hbit =>
    apply lookup_zip_of_not_mem
    intro hmem
    exact hbit (List.mem_filter.mp hmem).2

/-! ## Packing -/

/-- The word that has a bit set for each of 32 axes that has a value. -/
def packWord (assigned : Nat → Option Fixed32) (first : Nat) : UInt32 :=
  UInt32.ofNat (Nat.ofBits fun i : Fin 32 => (assigned (first + i)).isSome)

/-- The mask of the axes that have a value, in so many words. -/
def packMask (assigned : Nat → Option Fixed32) (words : Nat) : List UInt32 :=
  (List.range words).map fun i => packWord assigned (32 * i)

/-- The values of the axes in order. -/
def packValues (assigned : Nat → Option Fixed32) (words : Nat) : List Fixed32 :=
  (List.range (32 * words)).filterMap assigned

theorem testBit_packWord (first : Nat) (hn : n < 32) :
    (packWord assigned first).toNat.testBit n = (assigned (first + n)).isSome := by
  have hlt : Nat.ofBits (fun i : Fin 32 => (assigned (first + i)).isSome) < UInt32.size :=
    Nat.ofBits_lt_two_pow _
  rw [packWord, UInt32.toNat_ofNat_of_lt' hlt, Nat.testBit_ofBits_lt _ _ hn]

theorem hasBit_packMask (hn : n < 32 * words) :
    hasBit (packMask assigned words) n = (assigned n).isSome := by
  have hword : (packMask assigned words)[n / 32]? = some (packWord assigned (32 * (n / 32))) := by
    have hindex : n / 32 < words := by omega
    simp [packMask, hindex]
  rw [hasBit, hword, Option.any_some, testBit_packWord _ (Nat.mod_lt _ (by decide)),
    Nat.div_add_mod]

theorem rank_packMask (hn : n ≤ 32 * words) :
    rank (packMask assigned words) n = (List.range n).countP fun i => (assigned i).isSome := by
  apply List.countP_congr
  intro i hi
  have hlt : i < 32 * words := (List.mem_range.mp hi).trans_le hn
  rw [hasBit_packMask hlt]

/-- Packed values are read as they were assigned, as long as the mask has a bit for each of them. -/
theorem axisValue?_pack (number : UInt16) (h : ∀ axis, assigned axis ≠ none → axis < 32 * words) :
    axisValue? (packMask assigned words) (packValues assigned words) number =
      assigned number.toNat := by
  rw [axisValue?_eq_ite]
  cases hvalue : assigned number.toNat with
  -- an axis without a value has no bit
  | none =>
    rw [if_neg]
    intro hbit
    have hlt := lt_of_hasBit hbit
    rw [packMask, List.length_map, List.length_range] at hlt
    rw [hasBit_packMask hlt, hvalue] at hbit
    cases hbit
  | some value =>
    have hlt : number.toNat < 32 * words := h _ (by simp [hvalue])
    rw [hasBit_packMask hlt, hvalue, rank_packMask hlt.le]
    exact getElem?_filterMap_range hvalue hlt

/-- An axis has no value if its bit is not set, and otherwise the one at its rank, if there are so
many. So values that are packed for some of the axes, in a mask of any length that has room for
them, are read as they were. -/
theorem axisValue?_at_rank (number : UInt16) :
    (∀ mask values, axisValue? mask values number =
      if hasBit mask number.toNat then values[rank mask number.toNat]? else none) ∧
    ∀ assigned words, (∀ axis, assigned axis ≠ none → axis < 32 * words) →
      axisValue? (packMask assigned words) (packValues assigned words) number =
        assigned number.toNat :=
  ⟨fun mask values => axisValue?_eq_ite mask values number,
    fun _ _ h => axisValue?_pack number h⟩

/-- Values of three axes, one of them in a second word. -/
def threeAxes (axis : Nat) : Option Fixed32 :=
  [(1, ⟨10, 0⟩), (3, ⟨30, 0⟩), (33, ⟨330, 0⟩)].lookup axis

/-- The third value is that of axis 33. Axis 3 has none when the values are cut short before it. -/
theorem threeAxes_read :
    packMask threeAxes 2 = [0b1010, 0b10] ∧
      packValues threeAxes 2 = [⟨10, 0⟩, ⟨30, 0⟩, ⟨330, 0⟩] ∧
      axisValue? [0b1010, 0b10] [⟨10, 0⟩, ⟨30, 0⟩, ⟨330, 0⟩] 33 = some ⟨330, 0⟩ ∧
      axisValue? [0b1010, 0b10] [⟨10, 0⟩] 3 = none := by
  have hmask : packMask threeAxes 2 = [0b1010, 0b10] := by decide +kernel
  have hvalues : packValues threeAxes 2 = [⟨10, 0⟩, ⟨30, 0⟩, ⟨330, 0⟩] := by decide +kernel
  have hroom : ∀ axis, threeAxes axis ≠ none → axis < 32 * 2 := by
    intro axis haxis
    by_contra hbeyond
    apply haxis
    have h₁ : (axis == 1) = false := by simp; omega
    have h₃ : (axis == 3) = false := by simp; omega
    have h₃₃ : (axis == 33) = false := by simp; omega
    simp [threeAxes, List.lookup_cons, h₁, h₃, h₃₃]
  have hread := (axisValue?_at_rank 33).2 threeAxes 2 hroom
  rw [hmask, hvalues] at hread
  have hshort := (axisValue?_at_rank 3).1 [0b1010, 0b10] [⟨10, 0⟩]
  exact ⟨hmask, hvalues, hread, hshort.trans (by decide +kernel)⟩

end Pointer

end InputBridge
