-- SUMMARY: What the readers of an image find where certain bytes stand.
import InputBridge.Keyboard.Tables.Image
import InputBridge.Proofs.Text.Utf16
import Mathlib.Algebra.Group.Nat.Defs

/-!
# Reading what stands at a place

What the readers of an image find depends only on the bytes that stand where they
look. `At` says which bytes these are; each reader has one lemma that tells what it
makes of what a writer has left there.
-/

namespace InputBridge

namespace KeyTables

variable {image a b part : List UInt8} {off width n : Nat}

/-! ## Numbers -/

@[simp] theorem length_littleEndian (width n : Nat) : (littleEndian width n).length = width := by
  induction width generalizing n with
  | zero => rfl
  | succ width ih => rw [littleEndian, List.length_cons, ih]

theorem ofLittleEndian_littleEndian (h : n < 256 ^ width) :
    ofLittleEndian (littleEndian width n) = n := by
  induction width generalizing n with
  | zero =>
    have hn : n = 0 := by simpa using h
    rw [hn]
    rfl
  | succ width ih =>
    have hhigh : n / 256 < 256 ^ width := Nat.div_lt_of_lt_mul (by rwa [← Nat.pow_succ'])
    have hlow : (UInt8.ofNat n).toNat = n % 256 := UInt8.toNat_ofNat'
    calc ofLittleEndian (littleEndian (width + 1) n)
      _ = (UInt8.ofNat n).toNat + 256 * ofLittleEndian (littleEndian width (n / 256)) := rfl
      _ = n % 256 + 256 * (n / 256) := by rw [hlow, ih hhigh]
      _ = n := Nat.mod_add_div n 256

@[simp] theorem length_word (w : UInt16) : (word w).length = 2 := rfl

@[simp] theorem length_zeros (count : Nat) : (zeros count).length = count :=
  List.length_replicate

@[simp] theorem length_offset (n : Nat) : (offset n).length = 8 := rfl

/-! ## Places -/

/-- The bytes `part` stand in `image` from the place `off` on. -/
def At (image : List UInt8) (off : Nat) (part : List UInt8) : Prop :=
  ∃ rest, image.drop off = part ++ rest

theorem At.self (bytes : List UInt8) : At bytes 0 bytes := ⟨[], (List.append_nil bytes).symm⟩

theorem At.left (h : At image off (a ++ b)) : At image off a := by
  obtain ⟨rest, h⟩ := h
  exact ⟨b ++ rest, by rw [h, List.append_assoc]⟩

theorem At.right (h : At image off (a ++ b)) : At image (off + a.length) b := by
  obtain ⟨rest, h⟩ := h
  refine ⟨rest, ?_⟩
  rw [← List.drop_drop, h, List.append_assoc, List.drop_left]

/-- The bytes stand at the end of what is in front of them. -/
theorem At.after (h : At image off (a ++ b)) (hoff : off + a.length = n) : At image n b :=
  hoff ▸ h.right

theorem At.lt_length (h : At image off part) (hpart : part ≠ []) : off < image.length := by
  obtain ⟨rest, h⟩ := h
  apply Nat.lt_of_not_le
  intro hle
  rw [List.drop_eq_nil_of_le hle] at h
  exact hpart (List.append_eq_nil_iff.mp h.symm).1

/-! ## Numbers at a place -/

theorem At.number (h : At image off (littleEndian width n)) (hn : n < 256 ^ width) :
    numberAt image off width = n := by
  obtain ⟨rest, h⟩ := h
  have htake : (image.drop off).take width = littleEndian width n := by
    rw [h, List.take_left' (length_littleEndian width n)]
  rw [numberAt, htake, ofLittleEndian_littleEndian hn]

theorem At.byte {i : Nat} (h : At image off part) (hi : i < part.length) :
    byteAt image (off + i) = part[i] := by
  obtain ⟨rest, h⟩ := h
  have hget : (image.drop off)[i]? = some part[i] := by
    rw [h, List.getElem?_append_left hi, List.getElem?_eq_getElem hi]
  rw [List.getElem?_drop] at hget
  rw [byteAt, List.getD_eq_getElem?_getD, hget, Option.getD_some]

theorem At.word {w : UInt16} (h : At image off (word w)) : wordAt image off = w := by
  have hw : numberAt image off 2 = w.toNat := h.number w.toNat_lt
  rw [wordAt, hw, UInt16.ofNat_toNat]

/-- Of words in a row each stands two places after the one before. -/
theorem At.words {ws : List UInt16} (h : At image off (ws.flatMap KeyTables.word)) {i : Nat}
    (hi : i < ws.length) : wordAt image (off + 2 * i) = ws[i] := by
  induction ws generalizing off i with
  | nil => cases hi
  | cons w ws ih =>
    rw [List.flatMap_cons] at h
    cases i with
    | zero => exact h.left.word
    | succ i =>
      have hrest := ih h.right (Nat.lt_of_succ_lt_succ hi)
      rw [List.getElem_cons_succ, ← hrest, length_word]
      congr 1
      omega

theorem splitExactly_append (part rest : List UInt8) :
    splitExactly part.length (part ++ rest) = some (part, rest) := by
  induction part with
  | nil => rfl
  | cons x part ih => rw [List.length_cons, List.cons_append, splitExactly, ih, Option.map_some]

theorem At.slice (h : At image off part) : slice image off part.length = .ok part := by
  obtain ⟨rest, h⟩ := h
  rw [KeyTables.slice, h, splitExactly_append]

/-! ## Lists at a place -/

section Entries

variable {α β : Type} {size : Nat} {entry : List UInt8 → Except TableFault α}
  {enc : β → List UInt8} {dec : β → α} {xs : List β}

/-- The entry reader undoes the entry writer on `x`, and the entry does not look like the
end of the list. -/
structure Undoes (size : Nat) (entry : List UInt8 → Except TableFault α) (enc : β → List UInt8)
    (dec : β → α) (x : β) : Prop where
  length : (enc x).length = size + 1
  first : byteAt (enc x) 0 ≠ 0
  entry : entry (enc x) = .ok (dec x)

/-- An entry that is there ends the list, or is read before the entries behind it. -/
theorem readEntries_of_split {bytes rest : List UInt8}
    (h : splitExactly (size + 1) bytes = some (part, rest)) (off : Nat) :
    readEntries size entry off bytes =
      if byteAt part 0 = 0 then .ok []
      else do
        let first ← entry part
        let others ← readEntries size entry (off + (size + 1)) rest
        return first :: others := by
  rw [readEntries.eq_def]
  split
  · next hnone =>
    rw [h] at hnone
    cases hnone
  · next hsome =>
    rw [h] at hsome
    cases hsome
    rfl

theorem readEntries_append (h : ∀ x ∈ xs, Undoes size entry enc dec x) (off : Nat)
    (rest : List UInt8) :
    readEntries size entry off (xs.flatMap enc ++ zeros (size + 1) ++ rest) =
      .ok (xs.map dec) := by
  induction xs generalizing off with
  | nil =>
    -- the zeros are the entry that ends the list
    have hsplit := splitExactly_append (zeros (size + 1)) rest
    rw [length_zeros] at hsplit
    rw [List.flatMap_nil, List.nil_append, readEntries_of_split hsplit]
    exact if_pos rfl
  | cons x xs ih =>
    obtain ⟨hx, hxs⟩ := List.forall_mem_cons.mp h
    have hsplit := splitExactly_append (enc x) (xs.flatMap enc ++ zeros (size + 1) ++ rest)
    rw [hx.length] at hsplit
    rw [List.flatMap_cons, List.append_assoc, List.append_assoc,
      ← List.append_assoc (xs.flatMap enc), readEntries_of_split hsplit, if_neg hx.first, hx.entry,
      ih hxs]
    rfl

theorem At.entries (h : At image off (xs.flatMap enc ++ zeros (size + 1)))
    (hxs : ∀ x ∈ xs, Undoes size entry enc dec x) :
    readEntries size entry off (image.drop off) = .ok (xs.map dec) := by
  obtain ⟨rest, h⟩ := h
  rw [h]
  exact readEntries_append hxs off rest

end Entries

/-! ## Texts at a place -/

theorem readUnits_append {units : List UInt16} (h : ∀ u ∈ units, u ≠ 0) (off : Nat)
    (rest : List UInt8) :
    readUnits off (units.flatMap word ++ zeros 2 ++ rest) = .ok units := by
  induction units generalizing off with
  | nil => rfl
  | cons u units ih =>
    obtain ⟨hu, hunits⟩ := List.forall_mem_cons.mp h
    have hword : wordAt (word u) 0 = u := (At.self (word u)).word
    -- the reader takes two bytes at a time, so the word is spelt out
    obtain ⟨low, high, hbytes⟩ : ∃ low high, word u = [low, high] := ⟨_, _, rfl⟩
    rw [hbytes] at hword
    rw [List.flatMap_cons, hbytes, List.append_assoc, List.append_assoc,
      ← List.append_assoc (units.flatMap word)]
    calc readUnits off ([low, high] ++ (units.flatMap word ++ zeros 2 ++ rest))
      _ = if wordAt [low, high] 0 = 0 then .ok []
          else (readUnits (off + 2) (units.flatMap word ++ zeros 2 ++ rest)).map
            (wordAt [low, high] 0 :: ·) := by
        rw [List.cons_append, List.cons_append, List.nil_append, readUnits]
      _ = .ok (u :: units) := by
        rw [hword, if_neg hu, ih hunits]
        rfl

theorem At.text {name : KeyName} (h : At image off (textBytes name))
    (hname : '\x00' ∉ name.name.toList) : readText image off = .ok name.name := by
  obtain ⟨rest, h⟩ := h
  have hunits : readUnits off (image.drop off) = .ok (Text.Utf16.encode name.name) := by
    rw [h]
    exact readUnits_append (fun u hu => Text.Utf16.ne_zero_of_mem_encode hname hu) off rest
  unfold readText
  rw [hunits]
  dsimp only [bind, Except.bind]
  rw [Text.Utf16.decode?_encode]

end KeyTables

end InputBridge
