-- SUMMARY: Keys as input agree with the tables of the active layout.
import InputBridge.Seat.Typing
import InputBridge.Proofs.Keyboard.Building
import InputBridge.Proofs.Keyboard.VirtualKeys

/-!
# Keys as input and in the tables

A client that has the tables of the active layout and a client that is sent its keys as
input take them for the same keys: a key is input if the tables have a virtual key for its
scan code, and then the input has the low byte of this virtual key.
-/

namespace InputBridge

namespace Seat

variable {keymap : Keymap} {rules : Rules} {group keycode time : UInt32} {earlier : List Layout}
  {nextId : UInt16} {l : Layout} {s : Seat}

/-- The input that the tables have for a scan code with this virtual key. -/
def tableInput (scan vk : UInt16) (press : Bool) (time : UInt32) : Input :=
  .key (vk &&& 0xff) (scan &&& 0xff)
    ((if scan &&& 0x300 = 0 then 0 else KeyFlag.extended) ||| (if press then 0 else KeyFlag.up))
    time

theorem virtualKey_of_active (hactive : s.layouts.active = some l)
    (hnum : s.keyboard.locks.num = false) (scan : UInt16) :
    s.virtualKey scan = l.scanLayout.virtualKey scan := by
  simp [virtualKey, hactive, hnum]

theorem scanInput?_eq_some_iff_virtualKey {scan : UInt16} {press : Bool} {input : Input} :
    s.scanInput? scan press time = some input ↔
      s.virtualKey scan ≠ 0 ∧ input = tableInput scan (s.virtualKey scan) press time := by
  unfold scanInput? tableInput
  dsimp only
  split
  · next hnone => simp [hnone]
  · next hsome => simp [hsome, eq_comm]

/-- With a layout active and Num Lock off, a key of the keymap is input exactly if the
layout's tables have a virtual key for its scan code. They have at most one, and it is the
one of the input. -/
theorem scanInput?_eq_some_iff (hbuild : (Layout.build keymap rules group earlier nextId).1 = .ok l)
    (hactive : s.layouts.active = some l) (hnum : s.keyboard.locks.num = false)
    (hkeycode : keymap.minKeycode ≤ keycode ∧ keycode ≤ keymap.maxKeycode)
    (hbyte : (scanOfKeycode keycode).toUInt8 ≠ 0) :
    let scan := scanOfKeycode keycode
    (∀ press time input, s.scanInput? scan press time = some input ↔
      ∃ vk, l.tables.Assigns scan vk ∧ input = tableInput scan vk press time) ∧
    ∀ vk vk', l.tables.Assigns scan vk → l.tables.Assigns scan vk' → vk = vk' := by
  dsimp only
  have hbuild' : Layout.build keymap rules group earlier nextId =
      (.ok l, (Layout.build keymap rules group earlier nextId).2) := Prod.ext hbuild rfl
  have hassigns : ∀ vk, l.tables.Assigns (scanOfKeycode keycode) vk ↔
      vk = l.scanLayout.virtualKey (scanOfKeycode keycode) ∧ vk ≠ 0 := by
    -- the lists are made from all keys, and the keycode of the input is one of them
    intro vk
    rw [(Layout.built_of_build hbuild').tables,
      KeyTables.assigns_buildTables (toNat_scanOfKeycode_lt keycode)]
    refine and_congr_right fun hvk => ?_
    subst hvk
    constructor
    · -- another key may have entered it
      rintro ⟨keycode', -, hkey, hscan⟩
      exact hscan ▸ (ScanLayout.hasKey_iff.mp hkey).2
    · intro hne
      exact ⟨keycode, Keymap.mem_keycodes.mpr hkeycode, ScanLayout.hasKey_iff.mpr ⟨hbyte, hne⟩, rfl⟩
  constructor
  · intro press time input
    rw [scanInput?_eq_some_iff_virtualKey, virtualKey_of_active hactive hnum]
    simp only [hassigns, and_assoc, exists_eq_left]
  · intro vk vk' hvk hvk'
    rw [((hassigns vk).mp hvk).1, ((hassigns vk').mp hvk').1]

/-- A seat whose one layout is active. -/
def withLayout (l : Layout) : Seat :=
  { (default : Seat) with layouts := { all := [l], activeIndex := some 0 } }

/-- Keypad Enter has the scan byte and the virtual key of Enter, but is extended. -/
theorem scanInput?_keypadEnter :
    ∃ l, (Layout.build Layout.enterAndControl {} 0 [] 1).1 = .ok l ∧
      (withLayout l).layouts.active = some l ∧ (withLayout l).keyboard.locks.num = false ∧
      (0x1c, 0x10d) ∈ l.tables.extended0 ∧
      (withLayout l).scanInput? 0x11c true 7 = some (.key 0x0d 0x1c KeyFlag.extended 7) := by
  have htables : (Layout.build Layout.enterAndControl {} 0 [] 1).1.toOption.map
      (·.tables.extended0) = some [(0x1c, 0x10d), (0x1d, 0x1a3)] := by decide +kernel
  cases hbuild : (Layout.build Layout.enterAndControl {} 0 [] 1).1 with
  | error e =>
    rw [hbuild] at htables
    cases htables
  | ok l =>
    rw [hbuild] at htables
    have hmem : (0x1c, 0x10d) ∈ l.tables.extended0 := by
      rw [show l.tables.extended0 = _ from Option.some.inj htables]
      exact List.mem_cons_self
    have hactive : (withLayout l).layouts.active = some l := rfl
    have hkeycode : Layout.enterAndControl.minKeycode ≤ 104 ∧
        104 ≤ Layout.enterAndControl.maxKeycode := by decide
    obtain ⟨hinput, -⟩ := scanInput?_eq_some_iff hbuild hactive rfl hkeycode (by decide)
    exact ⟨l, rfl, hactive, rfl, hmem, (hinput true 7 _).mpr ⟨0x10d, hmem, by decide⟩⟩

end Seat

end InputBridge
