-- SUMMARY: Releasing a key undoes pressing it, input by input.
import InputBridge.Proofs.Seat.Keys
import InputBridge.Proofs.Seat.Language

/-!
# Keys that are released

What a key is as input when it is released is what it was when it was pressed, the other way round
and marked as released. So whoever follows the inputs has no key down afterwards that was not down
before, also where one key of the display server is two keys as input: right Alt is held inside
right Ctrl.
-/

namespace InputBridge

/-- A key that is down, as it is known from inputs. -/
structure HeldKey where
  vk : UInt16
  scan : UInt16
  extended : Bool
  deriving DecidableEq, Repr

namespace Input

/-! ## Keys that are down -/

/-- Whether the input presses a key. -/
def isPress : Input → Bool
  | key _ _ flags _ => flags &&& KeyFlag.up == 0
  | mouse .. | touch .. => false

/-- The input with the mark of a released key. -/
def lifted : Input → Input
  | key vk scan flags time => key vk scan (flags ||| KeyFlag.up) time
  | mouse dx dy data flags time => mouse dx dy data flags time
  | touch x y id flags time => touch x y id flags time

/-- The keys that are down after an input, the last one that was pressed first. -/
def hold (down : List HeldKey) : Input → List HeldKey
  | key vk scan flags _ =>
    let held : HeldKey := ⟨vk, scan, flags &&& KeyFlag.extended != 0⟩
    if flags &&& KeyFlag.up = 0 then held :: down else down.erase held
  | mouse .. | touch .. => down

theorem or_and (a b mask : UInt32) : (a ||| b) &&& mask = (a &&& mask) ||| (b &&& mask) := by
  apply UInt32.toNat_inj.mp
  simp only [UInt32.toNat_and, UInt32.toNat_or]
  exact Nat.and_or_distrib_right ..

theorem or_up_and_up_ne_zero (flags : UInt32) : (flags ||| KeyFlag.up) &&& KeyFlag.up ≠ 0 := by
  intro hzero
  rw [or_and] at hzero
  have hup : KeyFlag.up &&& KeyFlag.up = 0 := (UInt32.or_eq_zero_iff.mp hzero).2
  cases hup

theorem or_up_and_extended (flags : UInt32) :
    (flags ||| KeyFlag.up) &&& KeyFlag.extended = flags &&& KeyFlag.extended := by
  have hother : KeyFlag.up &&& KeyFlag.extended = 0 := by decide
  rw [or_and, hother, UInt32.or_zero]

theorem hold_lifted {input : Input} (hpress : input.isPress = true) (down : List HeldKey) :
    hold (hold down input) input.lifted = down := by
  cases input with
  | key vk scan flags time =>
    have hdown : flags &&& KeyFlag.up = 0 := by simpa [isPress] using hpress
    simp [hold, lifted, hdown, or_up_and_up_ne_zero, or_up_and_extended]
  | mouse | touch => cases hpress

/-- Keys that are pressed one after the other and released the other way round are all up again. -/
theorem foldl_hold_lifted {inputs : List Input} (h : ∀ input ∈ inputs, input.isPress = true)
    (down : List HeldKey) :
    (inputs ++ (inputs.map lifted).reverse).foldl hold down = down := by
  induction inputs generalizing down with
  | nil => rfl
  | cons input inputs ih =>
    obtain ⟨hpress, hrest⟩ := List.forall_mem_cons.mp h
    -- the other keys are pressed and released while the first one is down
    have hsplit : (input :: inputs) ++ ((input :: inputs).map lifted).reverse =
        input :: ((inputs ++ (inputs.map lifted).reverse) ++ [input.lifted]) := by simp
    rw [hsplit, List.foldl_cons, List.foldl_append, ih hrest]
    exact hold_lifted hpress down

end Input

namespace Seat

variable {s : Seat} {scan : UInt16} {time keycode : UInt32}

/-! ## Scan codes with a virtual key -/

/-- The table of the active layout has a virtual key for the scan code. Without a layout every
scan code has the unnamed one. -/
def HasKey (s : Seat) (scan : UInt16) : Prop :=
  ∀ layout, s.layouts.active = some layout → layout.scanLayout.virtualKey scan ≠ 0

theorem numpadDigit?_ne_zero {vk digit : UInt16} (h : VirtualKey.numpadDigit? vk = some digit) :
    digit ≠ 0 := by
  have hdigits : VirtualKey.numpadDigits.all (·.2 != 0) = true := by decide
  obtain ⟨before, after, hsplit, -⟩ := List.lookup_eq_some_iff.mp h
  have hdigit := List.all_eq_true.mp hdigits (vk &&& 0xff, digit) (by simp [hsplit])
  exact bne_iff_ne.mp hdigit

/-- Num Lock takes no key away, and adds none. -/
theorem virtualKey_ne_zero_iff : s.virtualKey scan ≠ 0 ↔ s.HasKey scan := by
  -- a key of the number pad is a digit or what it was
  have hlocked : ∀ vk : UInt16, (if s.keyboard.locks.num && vk &&& VirtualKey.numpadFlag != 0 then
      (VirtualKey.numpadDigit? vk).getD vk else vk) ≠ 0 ↔ vk ≠ 0 := by
    intro vk
    split
    · next hflag =>
      have hvk : vk ≠ 0 := by
        rintro rfl
        simp at hflag
      cases hdigit : VirtualKey.numpadDigit? vk with
      | none => simp
      | some digit => simp [hvk, numpadDigit?_ne_zero hdigit]
    · exact Iff.rfl
  rw [virtualKey, HasKey]
  cases hactive : s.layouts.active with
  -- without a layout every key counts as one
  | none =>
    have hunnamed : VirtualKey.unnamed ≠ 0 := by decide
    simpa using (hlocked VirtualKey.unnamed).mpr hunnamed
  | some layout =>
    simpa using hlocked (layout.scanLayout.virtualKey scan)

theorem exists_scanInput? (h : s.HasKey scan) (press : Bool) (time : UInt32) :
    ∃ input, s.scanInput? scan press time = some input :=
  ⟨_, scanInput?_eq_some_iff_virtualKey.mpr ⟨virtualKey_ne_zero_iff.mpr h, rfl⟩⟩

/-! ## Press and release -/

theorem isPress_of_scanInput? {input : Input} (h : s.scanInput? scan true time = some input) :
    input.isPress = true := by
  obtain ⟨-, rfl⟩ := scanInput?_eq_some_iff_virtualKey.mp h
  simp only [tableInput, Input.isPress]
  split <;> decide

theorem scanInput?_release :
    s.scanInput? scan false time = (s.scanInput? scan true time).map Input.lifted := by
  unfold scanInput?
  dsimp only
  split
  · rfl
  · simp [Input.lifted]

/-- A keycode is one input, if its scan code has a virtual key. If it is right Alt, right Ctrl is
another one, if there is such a key, on the outer side of it. -/
theorem keyInputs_cases (s : Seat) (keycode time : UInt32) :
    (s.scanInput? (scanOfKeycode keycode) true time = none ∧
        ∀ press, s.keyInputs keycode press time = []) ∨
      (∃ key, s.scanInput? (scanOfKeycode keycode) true time = some key ∧
        (scanOfKeycode keycode = rightAltScan →
          s.scanInput? rightControlScan true time = none) ∧
        s.keyInputs keycode true time = [key] ∧ s.keyInputs keycode false time = [key.lifted]) ∨
      ∃ control alt, s.scanInput? rightControlScan true time = some control ∧
        s.scanInput? (scanOfKeycode keycode) true time = some alt ∧
        s.keyInputs keycode true time = [control, alt] ∧
        s.keyInputs keycode false time = [alt.lifted, control.lifted] := by
  cases hkey : s.scanInput? (scanOfKeycode keycode) true time with
  | none =>
    refine .inl ⟨rfl, fun press => ?_⟩
    cases press <;> simp [keyInputs, scanInput?_release, hkey]
  | some key =>
    refine .inr ?_
    by_cases halt : scanOfKeycode keycode = rightAltScan
    · cases hcontrol : s.scanInput? rightControlScan true time with
      | none =>
        refine .inl ⟨key, rfl, fun _ => rfl, ?_, ?_⟩ <;>
          simp [keyInputs, scanInput?_release, hkey, hcontrol]
      | some control =>
        -- right Ctrl goes first when pressed, and last when released
        rw [halt] at hkey
        refine .inr ⟨control, key, rfl, rfl, ?_, ?_⟩ <;>
          simp [keyInputs, scanInput?_release, hkey, hcontrol, halt]
    · refine .inl ⟨key, rfl, fun h => absurd h halt, ?_, ?_⟩ <;>
        simp [keyInputs, scanInput?_release, hkey, halt]

theorem isPress_of_mem_keyInputs {input : Input} (h : input ∈ s.keyInputs keycode true time) :
    input.isPress = true := by
  rcases s.keyInputs_cases keycode time with
    ⟨-, hnone⟩ | ⟨key, hkey, -, hpress, -⟩ | ⟨control, alt, hcontrol, halt, hpress, -⟩
  · rw [hnone] at h
    cases h
  · rw [hpress] at h
    cases List.mem_singleton.mp h
    exact isPress_of_scanInput? hkey
  · rw [hpress] at h
    rcases List.mem_pair.mp h with rfl | rfl
    · exact isPress_of_scanInput? hcontrol
    · exact isPress_of_scanInput? halt

theorem keyInputs_released (s : Seat) (keycode time : UInt32) :
    s.keyInputs keycode false time =
      ((s.keyInputs keycode true time).map Input.lifted).reverse := by
  rcases s.keyInputs_cases keycode time with
    ⟨-, hnone⟩ | ⟨key, -, -, hpress, hrelease⟩ | ⟨control, alt, -, -, hpress, hrelease⟩
  · rw [hnone, hnone]
    rfl
  · rw [hpress, hrelease]
    rfl
  · rw [hpress, hrelease]
    rfl

/-- A keycode that is released is what it was when it was pressed, the other way round and marked
as released, and nothing if it was nothing. Whatever keys were down before the two, the same ones
are down after them. Right Alt comes inside right Ctrl if the table has both. -/
theorem keyInputs_release (s : Seat) (keycode time : UInt32) :
    let pressed := s.keyInputs keycode true time
    let released := s.keyInputs keycode false time
    (∀ input ∈ pressed, input.isPress = true) ∧
    released = (pressed.map Input.lifted).reverse ∧
    (released = [] ↔ pressed = []) ∧
    (∀ down, (pressed ++ released).foldl Input.hold down = down) ∧
    (scanOfKeycode keycode = rightAltScan → s.HasKey rightAltScan → s.HasKey rightControlScan →
      ∃ control alt, s.scanInput? rightControlScan true time = some control ∧
        s.scanInput? rightAltScan true time = some alt ∧
        pressed = [control, alt] ∧ released = [alt.lifted, control.lifted]) := by
  intro pressed released
  have hpress : ∀ input ∈ pressed, input.isPress = true := fun _ => isPress_of_mem_keyInputs
  have hrelease : released = (pressed.map Input.lifted).reverse := keyInputs_released s keycode time
  refine ⟨hpress, hrelease, ?_, ?_, ?_⟩
  · rw [hrelease, List.reverse_eq_nil_iff, List.map_eq_nil_iff]
  · intro down
    rw [hrelease]
    exact Input.foldl_hold_lifted hpress down
  -- with both keys in the table the other cases would leave one of them out
  · intro hscan hasAlt hasControl
    obtain ⟨alt, halt⟩ := exists_scanInput? hasAlt true time
    obtain ⟨control, hcontrol⟩ := exists_scanInput? hasControl true time
    rcases s.keyInputs_cases keycode time with
      ⟨hnone, -⟩ | ⟨key, -, hnone, -⟩ | ⟨control', alt', hcontrol', halt', hboth⟩
    · rw [hscan, halt] at hnone
      cases hnone
    · rw [hnone hscan] at hcontrol
      cases hcontrol
    · rw [hscan] at halt'
      exact ⟨control', alt', hcontrol', halt', hboth⟩

/-- Right Alt on a keyboard whose table has both keys. -/
theorem keyInputs_rightAlt :
    let alt : Input := .key 0xa5 0x38 KeyFlag.extended 7
    let control : Input := .key 0xa3 0x1d KeyFlag.extended 7
    scanOfKeycode 108 = rightAltScan ∧
      twoGroupSeat.HasKey rightAltScan ∧ twoGroupSeat.HasKey rightControlScan ∧
      twoGroupSeat.keyInputs 108 true 7 = [control, alt] ∧
      twoGroupSeat.keyInputs 108 false 7 = [alt.lifted, control.lifted] := by
  intro alt control
  have hscan : scanOfKeycode 108 = rightAltScan := by decide +kernel
  obtain ⟨halt, hcontrol⟩ : twoGroupSeat.scanInput? rightAltScan true 7 = some alt ∧
      twoGroupSeat.scanInput? rightControlScan true 7 = some control := by decide +kernel
  have hasKey : ∀ {scan input}, twoGroupSeat.scanInput? scan true 7 = some input →
      twoGroupSeat.HasKey scan := fun h =>
    virtualKey_ne_zero_iff.mp (scanInput?_eq_some_iff_virtualKey.mp h).1
  obtain ⟨-, -, -, -, inside⟩ := keyInputs_release twoGroupSeat 108 7
  obtain ⟨control', alt', hcontrol', halt', hboth⟩ := inside hscan (hasKey halt) (hasKey hcontrol)
  cases hcontrol.symm.trans hcontrol'
  cases halt.symm.trans halt'
  exact ⟨hscan, hasKey halt, hasKey hcontrol, hboth⟩

end Seat

end InputBridge
