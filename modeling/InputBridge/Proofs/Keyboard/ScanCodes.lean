-- SUMMARY: Bounds of scan codes, and that their bytes tell them apart within a range.
import InputBridge.Keyboard.Keymap
import InputBridge.Keyboard.ScanCode

/-!
# The scan codes of keycodes

Whatever its keycode, a key has one of some two hundred scan codes. None of them has both
range bits, so range and byte tell it from the others, and at none of them, except those
whose byte is zero, does a base layout say that there is no key.
-/

namespace InputBridge

/-! ## Keycodes -/

namespace Keymap

variable {k : Keymap} {keycode : UInt32}

theorem mem_keycodes :
    keycode ∈ k.keycodes ↔ k.minKeycode ≤ keycode ∧ keycode ≤ k.maxKeycode := by
  -- counted as natural numbers, so that the last keycode may be the largest there is
  have hrange : ∀ n, n ∈ List.range' k.minKeycode.toNat
      (k.maxKeycode.toNat + 1 - k.minKeycode.toNat) ↔
        k.minKeycode.toNat ≤ n ∧ n ≤ k.maxKeycode.toNat := by
    intro n
    rw [List.mem_range'_1]
    omega
  simp only [keycodes, List.mem_map, hrange, UInt32.le_iff_toNat_le]
  constructor
  · rintro ⟨n, hn, rfl⟩
    have hmax := k.maxKeycode.toNat_lt
    -- no keycode in the range wraps
    rwa [UInt32.toNat_ofNat', Nat.mod_eq_of_lt (by omega)]
  · intro h
    exact ⟨keycode.toNat, h, UInt32.ofNat_toNat⟩

theorem pairwise_keycodes (k : Keymap) : k.keycodes.Pairwise (· < ·) := by
  rw [keycodes, List.pairwise_map]
  refine List.Pairwise.imp_of_mem ?_ List.pairwise_lt_range'
  intro n n' hn hn' hlt
  rw [List.mem_range'_1] at hn hn'
  have hmax := k.maxKeycode.toNat_lt
  rw [UInt32.lt_iff_toNat_lt, UInt32.toNat_ofNat', UInt32.toNat_ofNat',
    Nat.mod_eq_of_lt (by omega), Nat.mod_eq_of_lt (by omega)]
  exact hlt

end Keymap

/-! ## Scan codes -/

/-- The scan codes that keys can have: those up to keypad dot, those with a name, and those
that are made up. -/
def scanCodes : List UInt16 :=
  (List.range 84).map UInt16.ofNat ++ namedScanCodes.map (·.2) ++
    (List.range 128).map fun n => 0x200 ||| UInt16.ofNat n

theorem scanOfKeycode_mem_scanCodes (keycode : UInt32) : scanOfKeycode keycode ∈ scanCodes := by
  unfold scanOfKeycode scanCodes
  simp only [List.mem_append, List.mem_map, List.mem_range]
  -- from here on it does not matter how the number of the key was computed
  generalize keycode - 8 = key
  split
  · next hle =>
    refine .inl (.inl ⟨key.toNat, Nat.lt_succ_of_le (UInt32.le_iff_toNat_le.mp hle), ?_⟩)
    exact UInt16.ofNat_uInt32ToNat key
  · cases hnamed : namedScanCodes.lookup key with
    | some scan =>
      obtain ⟨before, after, hsplit, -⟩ := List.lookup_eq_some_iff.mp hnamed
      exact .inl (.inr ⟨(key, scan), by simp [hsplit], rfl⟩)
    | none =>
      -- the numbers beyond the table keep seven bits and have the mark of extended keys
      refine .inr ⟨(key &&& 0x7f).toNat, ?_, ?_⟩
      · rw [UInt32.toNat_and]
        exact Nat.lt_succ_of_le Nat.and_le_right
      · rfl

/-- No scan code has both range bits. -/
theorem toNat_scanOfKeycode_lt (keycode : UInt32) : (scanOfKeycode keycode).toNat < 0x300 := by
  have all : (scanCodes.all fun scan => decide (scan.toNat < 0x300)) = true := by decide +kernel
  exact of_decide_eq_true (List.all_eq_true.mp all _ (scanOfKeycode_mem_scanCodes keycode))

namespace ScanLayout

variable {layout : ScanLayout} {scan vk : UInt16} {keycode : UInt32}

theorem mem_assignments_of_lookup (h : layout.assignments.lookup scan = some vk) :
    (scan, vk) ∈ layout.assignments := by
  obtain ⟨before, after, hsplit, -⟩ := List.lookup_eq_some_iff.mp h
  simp [hsplit]

/-- The entry names a virtual key, or no key has its scan code. -/
def namesKey (e : UInt16 × UInt16) : Bool :=
  e.2.toUInt8 != VirtualKey.unassigned.toUInt8 || e.1.toUInt8 == 0 || !scanCodes.contains e.1

theorem namesKey_of_mem_assignments (layout : ScanLayout) :
    ∀ e ∈ layout.assignments, namesKey e = true := by
  have shared : ((qwertyBlock ++ sharedKeys).all namesKey) = true := by decide +kernel
  have own : (layout.differences.all namesKey) = true := by cases layout <;> decide +kernel
  rw [assignments, List.append_assoc]
  intro e he
  rcases List.mem_append.mp he with he | he
  · exact List.all_eq_true.mp own e he
  · exact List.all_eq_true.mp shared e he

/-- Where a base layout has the number that stands for no key, no key is. -/
theorem toUInt8_virtualKey_ne_unassigned (layout : ScanLayout)
    (h : (scanOfKeycode keycode).toUInt8 ≠ 0) :
    (layout.virtualKey (scanOfKeycode keycode)).toUInt8 ≠ VirtualKey.unassigned.toUInt8 := by
  unfold virtualKey
  cases assigned : layout.assignments.lookup (scanOfKeycode keycode) with
  | none => decide
  | some vk =>
    have entry := layout.namesKey_of_mem_assignments _ (mem_assignments_of_lookup assigned)
    simpa [namesKey, h, scanOfKeycode_mem_scanCodes] using entry

end ScanLayout

end InputBridge
