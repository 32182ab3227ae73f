-- SUMMARY: Whatever the keymap, the tables that are built are those of their image.
import InputBridge.Keyboard.Layout
import InputBridge.Proofs.Keyboard.Image

/-!
# Built tables are read back

No entry that is made for a key looks like the end of the list it goes into: a key whose
scan byte is zero is left out, and no base layout assigns a virtual key whose low byte is
zero. So whatever the keymap, the tables of a layout are those of its image.
-/

namespace InputBridge

/-- No key of the keymap has a name with a zero character. -/
def Keymap.NamesWhole (k : Keymap) : Prop :=
  ∀ keycode group name, k.symbolName keycode group = some name → '\x00' ∉ name.toList

/-! ## Virtual keys -/

namespace ScanLayout

theorem low_byte_of_mem_assignments (layout : ScanLayout) :
    ∀ e ∈ layout.assignments, e.2.toUInt8 ≠ 0 := by
  have all : (layout.assignments.all fun e => e.2.toUInt8 != 0) = true := by
    cases layout <;> decide +kernel
  intro e he
  simpa using List.all_eq_true.mp all e he

/-- A virtual key is not lost when its flags are cut off. -/
theorem toUInt8_virtualKey_ne_zero {layout : ScanLayout} {scan : UInt16}
    (h : layout.virtualKey scan ≠ 0) : (layout.virtualKey scan).toUInt8 ≠ 0 := by
  unfold virtualKey at h ⊢
  cases assigned : layout.assignments.lookup scan with
  | none =>
    rw [assigned] at h
    exact absurd rfl h
  | some vk =>
    obtain ⟨before, after, hsplit, -⟩ := List.lookup_eq_some_iff.mp assigned
    exact layout.low_byte_of_mem_assignments (scan, vk) (by simp [hsplit])

end ScanLayout

/-! ## Entries -/

namespace KeyTables

open Layout

variable {keymap : Keymap} {keycode group : UInt32} {scanLayout : ScanLayout} {masks : Masks}
  {scan vk : UInt16} {t : KeyTables}

theorem wellFormed_emptyTables : emptyTables.WellFormed := by decide +kernel

theorem WellFormed.enterName (wf : t.WellFormed) (hscan : scan.toUInt8 ≠ 0)
    {name : Option String} (hname : ∀ s, name = some s → '\x00' ∉ s.toList) :
    (enterName scan name t).WellFormed := by
  unfold Layout.enterName
  cases name with
  | none => exact wf
  | some s =>
    have hentry : scan.toUInt8 ≠ 0 ∧ '\x00' ∉ s.toList := ⟨hscan, hname s rfl⟩
    dsimp only
    split
    · refine { wf with names := ?_ }
      rw [List.forall_mem_append, List.forall_mem_singleton]
      exact ⟨wf.names, hentry⟩
    · refine { wf with namesExtended := ?_ }
      rw [List.forall_mem_append, List.forall_mem_singleton]
      exact ⟨wf.namesExtended, hentry⟩

theorem WellFormed.enterVirtualKey (wf : t.WellFormed) (hscan : scan.toUInt8 ≠ 0) :
    (enterVirtualKey scan vk t).WellFormed := by
  unfold Layout.enterVirtualKey
  split
  · refine { wf with extended0 := ?_ }
    rw [List.forall_mem_append, List.forall_mem_singleton]
    exact ⟨wf.extended0, hscan⟩
  split
  · refine { wf with extended1 := ?_ }
    rw [List.forall_mem_append, List.forall_mem_singleton]
    exact ⟨wf.extended1, hscan⟩
  · exact { wf with base := (List.length_set ..).trans wf.base }

theorem vk_of_mem_charRows {key : UInt8} (hkey : key ≠ 0) :
    ∀ r ∈ Layout.charRows keymap keycode group key masks, r.vk ≠ 0 := by
  unfold Layout.charRows
  dsimp only
  split
  · exact nofun
  split
  · -- the row for Caps Lock has the number that stands for no key
    rw [List.forall_mem_cons, List.forall_mem_singleton]
    exact ⟨hkey, (by decide : VirtualKey.unassigned.toUInt8 ≠ 0)⟩
  · rw [List.forall_mem_singleton]
    exact hkey

theorem WellFormed.enterKey (wf : t.WellFormed) (names : keymap.NamesWhole) (keycode : UInt32) :
    (enterKey keymap group scanLayout masks t keycode).WellFormed := by
  unfold Layout.enterKey
  dsimp only
  split
  · exact wf
  · next hscan =>
    -- the name is entered before it is known whether the key has a virtual key
    have named := wf.enterName hscan (names keycode group)
    split
    · exact named
    · next hvk =>
      have assigned : (Layout.enterVirtualKey (scanOfKeycode keycode)
          (scanLayout.virtualKey (scanOfKeycode keycode)) _).WellFormed :=
        named.enterVirtualKey hscan
      refine { assigned with charRows := ?_ }
      rw [List.forall_mem_append]
      exact ⟨assigned.charRows,
        vk_of_mem_charRows (ScanLayout.toUInt8_virtualKey_ne_zero hvk)⟩

theorem wellFormed_buildTables (names : keymap.NamesWhole) :
    (buildTables keymap group scanLayout masks).WellFormed :=
  List.foldlRecOn _ _ wellFormed_emptyTables fun _ wf keycode _ => wf.enterKey names keycode

/-! ## Images -/

theorem ofImage_of_image_eq_ok {image : List UInt8} (wf : t.WellFormed)
    (h : t.image = .ok image) : image.length ≤ maxImageSize ∧ ofImage image = .ok t := by
  rw [image_eq] at h
  split at h
  · cases h
  · next hsize =>
    obtain rfl : t.imageBytes = image := Except.ok.inj h
    have hle : t.imageBytes.length ≤ maxImageSize := Nat.le_of_not_lt hsize
    rw [ofImage, readParts_of_laid (imageBytes_laid t) wf hle]
    exact ⟨hle, rfl⟩

end KeyTables

namespace Layout

variable {keymap : Keymap} {rules : Rules} {group : UInt32} {earlier : List Layout}
  {nextId next : UInt16} {l : Layout}

/-- How a layout comes from its keymap, from the layouts before it and from the counter of
layout ids, which stands at `next` afterwards. -/
structure Built (keymap : Keymap) (g : UInt32) (earlier : List Layout) (nextId : UInt16)
    (l : Layout) (next : UInt16) : Prop where
  group : l.group = g
  lang : ∃ code, l.lang = LangId.ofLayoutCode code
  index : l.index = UInt16.ofNat (earlier.countP (·.lang == l.lang))
  layoutId : l.layoutId = if l.index = 0 then 0 else nextId
  next : next = if l.index = 0 then nextId else nextId + 1
  masks : l.masks = Masks.ofKeymap keymap
  tables : l.tables = buildTables keymap g l.scanLayout l.masks
  image : l.tables.image = .ok l.image

theorem built_of_build (h : build keymap rules group earlier nextId = (.ok l, next)) :
    Built keymap group earlier nextId l next := by
  unfold build at h
  dsimp only at h
  -- what the layout is called and which scan codes it has do not matter here
  generalize codeAndVariant rules group ((keymap.groupName group).getD "") = names at h
  generalize chooseScanLayout _ _ _ = scanLayout at h
  generalize himage : (buildTables keymap group scanLayout (Masks.ofKeymap keymap)).image = r at h
  obtain ⟨hl, rfl⟩ := Prod.mk.inj h
  cases r with
  | error e => cases hl
  | ok image =>
    cases hl
    constructor
    case lang => exact ⟨names.1, rfl⟩
    case layoutId =>
      dsimp only
      split <;> rfl
    case next =>
      dsimp only
      split <;> rfl
    case image => exact himage
    all_goals rfl

/-- Whoever reads the image of a layout that was built has all of its tables. -/
theorem build_read_back (names : keymap.NamesWhole)
    (h : (build keymap rules group earlier nextId).1 = .ok l) :
    l.tables.WellFormed ∧ l.image.length ≤ KeyTables.maxImageSize ∧
      KeyTables.ofImage l.image = .ok l.tables := by
  have hbuild : build keymap rules group earlier nextId =
      (.ok l, (build keymap rules group earlier nextId).2) := Prod.ext h rfl
  have built := built_of_build hbuild
  have wf : l.tables.WellFormed := built.tables ▸ KeyTables.wellFormed_buildTables names
  exact ⟨wf, KeyTables.ofImage_of_image_eq_ok wf built.image⟩

/-- A French keymap with two keys, keypad Enter and the right Ctrl key. -/
def enterAndControl : Keymap where
  minKeycode := 104
  maxKeycode := 105
  groups := 1
  groupName _ := some "French"
  symbolName keycode _ := if keycode = 105 then some "Control_R" else none
  modifierMask _ := 0
  character keycode _ _ := if keycode = 104 then some '\r' else none

theorem enterAndControl_read_back : enterAndControl.NamesWhole ∧
    ∃ l, (build enterAndControl {} 0 [] 1).1 = .ok l ∧
      l.tables.namesExtended = [⟨0x1d, "Control_R"⟩] ∧
      l.tables.WellFormed ∧ l.image.length ≤ KeyTables.maxImageSize ∧
        KeyTables.ofImage l.image = .ok l.tables := by
  have names : enterAndControl.NamesWhole := by
    intro keycode group name h
    simp only [enterAndControl] at h
    split at h
    · cases h
      decide +kernel
    · cases h
  have named : (build enterAndControl {} 0 [] 1).1.toOption.map (·.tables.namesExtended) =
      some [⟨0x1d, "Control_R"⟩] := by decide +kernel
  refine ⟨names, ?_⟩
  -- the tables are known by evaluation, and the theorem says the rest
  cases h : (build enterAndControl {} 0 [] 1).1 with
  | error e =>
    rw [h] at named
    cases named
  | ok l =>
    rw [h] at named
    exact ⟨l, rfl, Option.some.inj named, build_read_back names h⟩

end Layout

end InputBridge
