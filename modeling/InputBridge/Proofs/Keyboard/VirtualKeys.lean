-- SUMMARY: What the scan tables of a layout have for a scan code.
import InputBridge.Keyboard.Layout
import InputBridge.Proofs.Keyboard.Characters

/-!
# The virtual keys of built tables

The tables of a layout keep the virtual keys of three ranges of scan codes apart, and of a
scan code the byte. Several keys may have one scan code. What the tables have for it is what
the base layout has, as soon as one of these keys is in the keymap.
-/

namespace InputBridge

/-- The range bits of a scan code that has at most one of them. -/
theorem range_iff {scan : UInt16} (hscan : scan.toNat < 0x300) :
    (scan &&& 0x100 ≠ 0 ↔ scan.toNat / 256 = 1) ∧ (scan &&& 0x200 ≠ 0 ↔ scan.toNat / 256 = 2) := by
  have range : ∀ n < 0x300, (UInt16.ofNat n &&& 0x100 ≠ 0 ↔ n / 256 = 1) ∧
      (UInt16.ofNat n &&& 0x200 ≠ 0 ↔ n / 256 = 2) := by decide +kernel
  have := range scan.toNat hscan
  rwa [UInt16.ofNat_toNat] at this

/-- A scan code without a range bit is its byte. -/
theorem toNat_toUInt8_of_base {scan : UInt16} (hscan : scan.toNat < 0x300)
    (hfirst : ¬scan &&& 0x100 ≠ 0) (hsecond : ¬scan &&& 0x200 ≠ 0) :
    scan.toUInt8.toNat = scan.toNat := by
  rw [(range_iff hscan).1] at hfirst
  rw [(range_iff hscan).2] at hsecond
  rw [UInt16.toNat_toUInt8]
  omega

namespace KeyTables

variable {t t' : KeyTables} {keymap : Keymap} {keycode group : UInt32} {scanLayout : ScanLayout}
  {masks : Masks} {scan scan' vk vk' : UInt16}

/-- The tables have the virtual key for the scan code: in the list of its range, or else in
its place, where 0 stands for none. -/
def Assigns (t : KeyTables) (scan vk : UInt16) : Prop :=
  if scan &&& 0x100 ≠ 0 then (scan.toUInt8, vk) ∈ t.extended0
  else if scan &&& 0x200 ≠ 0 then (scan.toUInt8, vk) ∈ t.extended1
  else t.base[scan.toNat]? = some vk ∧ vk ≠ 0

theorem Assigns.congr (hbase : t'.base = t.base) (hfirst : t'.extended0 = t.extended0)
    (hsecond : t'.extended1 = t.extended1) : t'.Assigns scan vk ↔ t.Assigns scan vk := by
  rw [Assigns, Assigns, hbase, hfirst, hsecond]

theorem not_assigns_emptyTables : ¬Layout.emptyTables.Assigns scan vk := by
  unfold Assigns
  split
  · exact List.not_mem_nil
  split
  · exact List.not_mem_nil
  · rintro ⟨hplace, hne⟩
    rw [Layout.emptyTables, List.getElem?_replicate] at hplace
    split at hplace
    · exact hne (Option.some.inj hplace).symm
    · cases hplace

/-! ## Entering a virtual key -/

theorem length_base_enterVirtualKey :
    (Layout.enterVirtualKey scan vk t).base.length = t.base.length := by
  unfold Layout.enterVirtualKey
  split
  · rfl
  split
  · rfl
  · exact List.length_set ..

/-- For its own scan code a virtual key is there afterwards, and at most what was there
before besides. -/
theorem assigns_enterVirtualKey_self (hscan : scan.toNat < 0x300)
    (hbase : t.base.length = baseSize) (hvk : vk ≠ 0)
    (hbefore : ∀ vk', t.Assigns scan vk' → vk' = vk) :
    (Layout.enterVirtualKey scan vk t).Assigns scan vk' ↔ vk' = vk := by
  unfold Layout.enterVirtualKey
  unfold Assigns at hbefore ⊢
  by_cases hfirst : scan &&& 0x100 ≠ 0
  · simp only [if_pos hfirst] at hbefore ⊢
    simpa using hbefore vk'
  by_cases hsecond : scan &&& 0x200 ≠ 0
  · simp only [if_neg hfirst, if_pos hsecond] at hbefore ⊢
    simpa using hbefore vk'
  · -- the place is written over
    have hbyte : scan.toUInt8.toNat = scan.toNat := toNat_toUInt8_of_base hscan hfirst hsecond
    have hplace : scan.toNat < t.base.length := by
      rw [hbase, ← hbyte]
      exact scan.toUInt8.toNat_lt
    simp only [if_neg hfirst, if_neg hsecond, hbyte, List.getElem?_set_self hplace]
    constructor
    · rintro ⟨heq, -⟩
      exact (Option.some.inj heq).symm
    · rintro rfl
      exact ⟨rfl, hvk⟩

/-- A virtual key is entered for no other scan code. -/
theorem assigns_enterVirtualKey_of_ne (hscan : scan.toNat < 0x300) (hscan' : scan'.toNat < 0x300)
    (hne : scan' ≠ scan) :
    (Layout.enterVirtualKey scan vk t).Assigns scan' vk' ↔ t.Assigns scan' vk' := by
  have apart : scan.toNat / 256 = scan'.toNat / 256 → scan'.toUInt8 ≠ scan.toUInt8 := by
    intro hrange hbyte
    have hmod : scan'.toNat % 256 = scan.toNat % 256 := congrArg UInt8.toNat hbyte
    exact hne (UInt16.toNat_inj.mp (by omega))
  obtain ⟨hfirst_iff, hsecond_iff⟩ := range_iff hscan
  obtain ⟨hfirst_iff', hsecond_iff'⟩ := range_iff hscan'
  unfold Layout.enterVirtualKey Assigns
  by_cases hfirst : scan &&& 0x100 ≠ 0
  · simp only [if_pos hfirst]
    split
    · next hfirst' =>
      simp [apart ((hfirst_iff.mp hfirst).trans (hfirst_iff'.mp hfirst').symm)]
    · exact Iff.rfl
  by_cases hsecond : scan &&& 0x200 ≠ 0
  · simp only [if_neg hfirst, if_pos hsecond]
    split
    · exact Iff.rfl
    split
    · next hsecond' =>
      simp [apart ((hsecond_iff.mp hsecond).trans (hsecond_iff'.mp hsecond').symm)]
    · exact Iff.rfl
  · simp only [if_neg hfirst, if_neg hsecond]
    split
    · exact Iff.rfl
    split
    · exact Iff.rfl
    · have hplace : scan.toUInt8.toNat ≠ scan'.toNat := by
        rw [toNat_toUInt8_of_base hscan hfirst hsecond]
        exact fun heq => hne (UInt16.toNat_inj.mp heq.symm)
      rw [List.getElem?_set_ne hplace]

/-! ## Entering keys -/

theorem length_base_enterName {name : Option String} :
    (Layout.enterName scan name t).base.length = t.base.length := by
  unfold Layout.enterName
  cases name with
  | none => rfl
  | some name =>
    dsimp only
    split <;> rfl

theorem assigns_enterName {name : Option String} :
    (Layout.enterName scan name t).Assigns scan' vk ↔ t.Assigns scan' vk := by
  unfold Layout.enterName
  cases name with
  | none => exact Iff.rfl
  | some name =>
    dsimp only
    split <;> exact Assigns.congr rfl rfl rfl

theorem length_base_enterKey :
    (Layout.enterKey keymap group scanLayout masks t keycode).base.length = t.base.length := by
  unfold Layout.enterKey
  dsimp only
  split
  · rfl
  split
  · exact length_base_enterName
  · exact length_base_enterVirtualKey.trans length_base_enterName

/-- The base codes have their places, and the tables have no other virtual keys than the base
layout. -/
structure Follows (t : KeyTables) (scanLayout : ScanLayout) : Prop where
  base : t.base.length = baseSize
  virtualKey : ∀ scan vk, scan.toNat < 0x300 → t.Assigns scan vk → vk = scanLayout.virtualKey scan

theorem follows_emptyTables (scanLayout : ScanLayout) : Layout.emptyTables.Follows scanLayout :=
  ⟨List.length_replicate .., fun _ _ _ h => absurd h not_assigns_emptyTables⟩

/-- The key has the scan code and stands in the tables. -/
def Enters (scanLayout : ScanLayout) (keycode : UInt32) (scan : UInt16) : Prop :=
  scanLayout.hasKey keycode = true ∧ scanOfKeycode keycode = scan

/-- A key adds the virtual key of its scan code, if it was not there already. -/
theorem Follows.assigns_enterKey (h : t.Follows scanLayout) (hscan : scan.toNat < 0x300) :
    (Layout.enterKey keymap group scanLayout masks t keycode).Assigns scan vk ↔
      t.Assigns scan vk ∨ vk = scanLayout.virtualKey scan ∧ Enters scanLayout keycode scan := by
  unfold Layout.enterKey Enters
  dsimp only
  split
  · next hbyte => simp [ScanLayout.hasKey, hbyte]
  split
  · next hnone => simp [ScanLayout.hasKey, hnone, assigns_enterName]
  · next hbyte hvk =>
    have hkey : scanLayout.hasKey keycode = true := ScanLayout.hasKey_iff.mpr ⟨hbyte, hvk⟩
    -- the rows of the key do not matter
    change (Layout.enterVirtualKey _ _ (Layout.enterName _ _ t)).Assigns scan vk ↔ _
    by_cases hself : scanOfKeycode keycode = scan
    · subst hself
      rw [assigns_enterVirtualKey_self hscan (length_base_enterName.trans h.base) hvk
        fun vk' hvk' => h.virtualKey _ _ hscan (assigns_enterName.mp hvk')]
      simpa [hkey] using h.virtualKey _ _ hscan
    · rw [assigns_enterVirtualKey_of_ne (toNat_scanOfKeycode_lt keycode) hscan (Ne.symm hself),
        assigns_enterName]
      simp [hself]

theorem Follows.enterKey (h : t.Follows scanLayout) :
    (Layout.enterKey keymap group scanLayout masks t keycode).Follows scanLayout :=
  ⟨length_base_enterKey.trans h.base, fun scan vk hscan hvk =>
    ((h.assigns_enterKey hscan).mp hvk).elim (h.virtualKey scan vk hscan) And.left⟩

theorem Follows.assigns_foldl_enterKey (keycodes : List UInt32) (h : t.Follows scanLayout)
    (hscan : scan.toNat < 0x300) :
    (keycodes.foldl (Layout.enterKey keymap group scanLayout masks) t).Assigns scan vk ↔
      t.Assigns scan vk ∨
        vk = scanLayout.virtualKey scan ∧ ∃ keycode ∈ keycodes, Enters scanLayout keycode scan := by
  induction keycodes generalizing t with
  | nil => simp
  | cons keycode keycodes ih =>
    rw [List.foldl_cons, ih h.enterKey, h.assigns_enterKey hscan, or_assoc,
      List.exists_mem_cons_iff, ← and_or_left]

/-- The virtual keys of built tables: those that the base layout has for the scan codes of
the keymap's keys. -/
theorem assigns_buildTables (hscan : scan.toNat < 0x300) :
    (Layout.buildTables keymap group scanLayout masks).Assigns scan vk ↔
      vk = scanLayout.virtualKey scan ∧
        ∃ keycode ∈ keymap.keycodes, Enters scanLayout keycode scan := by
  rw [Layout.buildTables, (follows_emptyTables scanLayout).assigns_foldl_enterKey _ hscan]
  exact or_iff_right not_assigns_emptyTables

end KeyTables

end InputBridge
