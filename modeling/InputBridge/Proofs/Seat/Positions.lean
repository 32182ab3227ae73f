-- SUMMARY: Positions of buttons and motion are exact, or overflow; the screens next to which none overflows.
import InputBridge.CommandLine.Values
import InputBridge.Proofs.FixedPoint
import InputBridge.Proofs.Overflow
import InputBridge.Proofs.Seat.Deliveries
import InputBridge.Proofs.Seat.Events
import InputBridge.Proofs.Seat.Run

/-!
# Positions in windows

Buttons and motion are delivered with the position of the pointer in whole pixels from the corner
of the screen. Where a difference does not fit in 32 bits nothing is delivered: the subtraction
ends the program. No position of the root window is farther than 32769 pixels from its origin, so
that only screens with a corner at the far ends of the plane have positions at which it does.
-/

namespace InputBridge

/-- The position in the root window at which a button or the pointer is reported. -/
def Event.position? : Event → Option (Int32 × Int32)
  | .button _ _ _ _ rootX rootY | .motion _ _ _ _ rootX rootY => some (rootX, rootY)
  | _ => none

/-- The position that mouse input has in its window. -/
def Delivery.position? : Delivery → Option (Int32 × Int32)
  | .input (some _) (.mouse x y ..) => some (x, y)
  | _ => none

namespace Seat

variable {σ : Type} {S : DisplayServer σ} {s : Seat} {screen : Rect} {event : Event}
  {window : WindowId} {handle : Handle} {rootX rootY x y : Int32} {press : Bool}
  {time detail : UInt32} {kind : MotionKind} {seq : UInt64}

/-! ## The screen -/

/-- The point is where the position of the root window lies as seen from the corner of the screen,
as numbers without bounds. -/
structure Located (screen : Rect) (rootX rootY x y : Int32) : Prop where
  left : x.toInt = (fixed16Round rootX).toInt - screen.left.toInt
  top : y.toInt = (fixed16Round rootY).toInt - screen.top.toInt

theorem toScreen_eq_ok_iff : toScreen rootX rootY screen = .ok (x, y) ↔
    Located screen rootX rootY x y := by
  constructor
  · intro h
    obtain ⟨x', hx, h⟩ := of_bind_eq_ok h
    obtain ⟨y', hy, h⟩ := of_bind_eq_ok h
    cases h
    exact ⟨checkedSub_eq_ok_iff.mp hx, checkedSub_eq_ok_iff.mp hy⟩
  · intro h
    rw [toScreen, checkedSub_eq_ok_iff.mpr h.left, checkedSub_eq_ok_iff.mpr h.top]
    rfl

/-- A position has its point, or it has none and a subtraction overflows. -/
theorem toScreen_cases (rootX rootY : Int32) (screen : Rect) :
    (∃ x y, Located screen rootX rootY x y ∧ toScreen rootX rootY screen = .ok (x, y)) ∨
      (∀ x y, ¬Located screen rootX rootY x y) ∧
        toScreen rootX rootY screen = .error .subtract := by
  cases hx : checkedSub (fixed16Round rootX) screen.left with
  | error e =>
    obtain ⟨rfl, -⟩ := checkedSub_eq_error_iff.mp hx
    refine .inr ⟨fun x y located => ?_, by rw [toScreen, hx]; rfl⟩
    -- the difference that does not fit would be the place
    cases (checkedSub_eq_ok_iff.mpr located.left).symm.trans hx
  | ok x =>
    cases hy : checkedSub (fixed16Round rootY) screen.top with
    | error e =>
      obtain ⟨rfl, -⟩ := checkedSub_eq_error_iff.mp hy
      refine .inr ⟨fun x y located => ?_, by rw [toScreen, hx, hy]; rfl⟩
      cases (checkedSub_eq_ok_iff.mpr located.top).symm.trans hy
    | ok y =>
      have located : Located screen rootX rootY x y :=
        ⟨checkedSub_eq_ok_iff.mp hx, checkedSub_eq_ok_iff.mp hy⟩
      exact .inl ⟨x, y, located, toScreen_eq_ok_iff.mpr located⟩

theorem exists_located_iff : (∃ x y, Located screen rootX rootY x y) ↔
    (-2147483648 ≤ (fixed16Round rootX).toInt - screen.left.toInt ∧
      (fixed16Round rootX).toInt - screen.left.toInt ≤ 2147483647) ∧
    (-2147483648 ≤ (fixed16Round rootY).toInt - screen.top.toInt ∧
      (fixed16Round rootY).toInt - screen.top.toInt ≤ 2147483647) := by
  constructor
  -- the place is a word, so the difference fits one
  · rintro ⟨x, y, located⟩
    rw [← located.left, ← located.top]
    have hx := x.toInt_lt
    have hy := y.toInt_lt
    exact ⟨⟨x.le_toInt, by omega⟩, y.le_toInt, by omega⟩
  · rintro ⟨⟨hx, hx'⟩, hy, hy'⟩
    exact ⟨.ofInt _, .ofInt _, Int32.toInt_ofInt_of_le hx (by omega),
      Int32.toInt_ofInt_of_le hy (by omega)⟩

/-- The corner of the screen is not at the far ends of the plane. -/
def CornerInReach (screen : Rect) : Prop :=
  (-2147450879 ≤ screen.left.toInt ∧ screen.left.toInt ≤ 2147450879) ∧
    (-2147450879 ≤ screen.top.toInt ∧ screen.top.toInt ≤ 2147450879)

instance (screen : Rect) : Decidable (CornerInReach screen) := by
  unfold CornerInReach
  infer_instance

theorem exists_located_of_cornerInReach (h : CornerInReach screen) (rootX rootY : Int32) :
    ∃ x y, Located screen rootX rootY x y := by
  have hx := fixed16Round_bounds rootX
  have hy := fixed16Round_bounds rootY
  unfold CornerInReach at h
  rw [exists_located_iff]
  omega

theorem cornerInReach_of_located
    (hmin : ∃ x y, Located screen Int32.minValue Int32.minValue x y)
    (hmax : ∃ x y, Located screen Int32.maxValue Int32.maxValue x y) : CornerInReach screen := by
  -- the positions at the ends are the first ones that do not fit
  rw [exists_located_iff, fixed16Round_minValue] at hmin
  rw [exists_located_iff, fixed16Round_maxValue] at hmax
  unfold CornerInReach
  omega

/-! ## What is delivered -/

/-- Absolute motion in a window. -/
def motionInput (handle : Handle) (x y : Int32) (time : UInt32) : Delivery :=
  .input (some handle) (.mouse x y 0 (MouseFlag.move ||| MouseFlag.absolute) time)

theorem onMotion_eq (hwindow : s.windows.lookup? window = some handle) :
    s.onMotion screen seq time window rootX rootY =
      if s.lastWarp = some seq then .ok []
      else (toScreen rootX rootY screen).map fun (x, y) => [motionInput handle x y time] := by
  rw [onMotion, hwindow]
  rfl

theorem onButton_eq (hwindow : s.windows.lookup? window = some handle) :
    s.onButton screen press time window detail rootX rootY =
      match Pointer.button? detail press with
      | none => .ok []
      | some (flags, data) => (toScreen rootX rootY screen).map fun (x, y) =>
        [.input none (.mouse 0 0 data flags time),
          .input (some handle) (.mouse x y data (flags ||| MouseFlag.absolute) time)] := by
  rw [onButton, hwindow]
  cases Pointer.button? detail press <;> rfl

theorem delivered_motion (hlive : s.failed = false) (w : World σ) :
    s.delivered S screen (.motion kind seq time window rootX rootY) w =
      s.onMotion screen seq time window rootX rootY := by
  rw [delivered_of_live hlive, onEvent]
  cases s.onMotion screen seq time window rootX rootY <;> rfl

theorem delivered_button (hlive : s.failed = false) (w : World σ) :
    s.delivered S screen (.button press time window detail rootX rootY) w =
      s.onButton screen press time window detail rootX rootY := by
  rw [delivered_of_live hlive, onEvent]
  cases s.onButton screen press time window detail rootX rootY <;> rfl

/-- The position of the event is passed on: the button is one that is known, or the motion is not
that of the last warp. -/
def PassesOn (s : Seat) : Event → Prop
  | .button press _ _ detail _ _ => Pointer.button? detail press ≠ none
  | .motion _ seq .. => s.lastWarp ≠ some seq
  | _ => False

/-- An event in a registered window is delivered at the one position that it has there. -/
theorem positions_of_passesOn (hlive : s.failed = false)
    (hwindow : s.windows.lookup? window = some handle) (hevent : event.window? = some window)
    (hposition : event.position? = some (rootX, rootY)) (hpasses : s.PassesOn event) (w : World σ) :
    (s.delivered S screen event w).map (·.filterMap Delivery.position?) =
      (toScreen rootX rootY screen).map ([·]) := by
  cases event with
  | button press time window' detail rootX rootY =>
    cases hevent
    cases hposition
    obtain ⟨⟨flags, data⟩, hbutton⟩ := Option.ne_none_iff_exists'.mp hpasses
    rw [delivered_button hlive, onButton_eq hwindow, hbutton]
    -- with or without an overflow, nothing else is delivered
    cases toScreen rootX rootY screen <;> rfl
  | motion kind seq time window' rootX rootY =>
    cases hevent
    cases hposition
    rw [delivered_motion hlive, onMotion_eq hwindow, if_neg hpasses]
    cases toScreen rootX rootY screen <;> rfl
  | _ => cases hposition

theorem delivered_of_not_passesOn (hlive : s.failed = false)
    (hwindow : s.windows.lookup? window = some handle) (hevent : event.window? = some window)
    (hposition : event.position? = some (rootX, rootY)) (hheld : ¬s.PassesOn event)
    (w : World σ) : s.delivered S screen event w = .ok [] := by
  cases event with
  | button press time window' detail rootX rootY =>
    cases hevent
    rw [delivered_button hlive, onButton_eq hwindow, of_not_not hheld]
  | motion kind seq time window' rootX rootY =>
    cases hevent
    rw [delivered_motion hlive, onMotion_eq hwindow, if_pos (of_not_not hheld)]
  | _ => cases hposition

/-- What is passed on is delivered exactly where it is, or it has no position there and
overflows. -/
theorem delivered_of_passesOn (hlive : s.failed = false)
    (hwindow : s.windows.lookup? window = some handle) (hevent : event.window? = some window)
    (hposition : event.position? = some (rootX, rootY)) (hpasses : s.PassesOn event) (w : World σ) :
    (∃ x y, Located screen rootX rootY x y ∧
      (s.delivered S screen event w).map (·.filterMap Delivery.position?) = .ok [(x, y)]) ∨
    (∀ x y, ¬Located screen rootX rootY x y) ∧ s.delivered S screen event w = .error .subtract := by
  have hpositions : (s.delivered S screen event w).map (·.filterMap Delivery.position?) =
      (toScreen rootX rootY screen).map ([·]) :=
    positions_of_passesOn hlive hwindow hevent hposition hpasses w
  rcases toScreen_cases rootX rootY screen with ⟨x, y, located, h⟩ | ⟨hnone, h⟩
  · exact .inl ⟨x, y, located, by rw [hpositions, h]; rfl⟩
  · rw [h] at hpositions
    exact .inr ⟨hnone, of_map_eq_error hpositions⟩

/-! ## The screens next to which nothing overflows -/

/-- If motion everywhere has something delivered, the corner of the screen is in reach. -/
theorem cornerInReach_of_delivered (hlive : s.failed = false)
    (hwindow : s.windows.lookup? window = some handle) (hseq : s.lastWarp ≠ some seq) (w : World σ)
    (h : ∀ rootX rootY, ∃ deliveries,
      s.delivered S screen (.motion kind seq time window rootX rootY) w = .ok deliveries) :
    CornerInReach screen := by
  have located : ∀ rootX rootY, ∃ x y, Located screen rootX rootY x y := by
    intro rootX rootY
    obtain ⟨deliveries, hok⟩ := h rootX rootY
    rw [delivered_motion hlive, onMotion_eq hwindow, if_neg hseq] at hok
    rcases toScreen_cases rootX rootY screen with ⟨x, y, located, -⟩ | ⟨-, herror⟩
    · exact ⟨x, y, located⟩
    -- what overflows delivers nothing, not even an empty list
    · rw [herror] at hok
      cases hok
  exact cornerInReach_of_located (located _ _) (located _ _)

/-- Buttons and motion in a registered window are delivered exactly where they are, or they have no
position there and overflow. None does exactly if the corner of the screen is not at the far ends
of the plane. -/
theorem located_iff (S : DisplayServer σ) (w : World σ) (hlive : s.failed = false)
    (hwindow : s.windows.lookup? window = some handle) :
    (∀ event rootX rootY, event.window? = some window → event.position? = some (rootX, rootY) →
      (s.PassesOn event →
        (∃ x y, Located screen rootX rootY x y ∧
          (s.delivered S screen event w).map (·.filterMap Delivery.position?) = .ok [(x, y)]) ∨
        (∀ x y, ¬Located screen rootX rootY x y) ∧
          s.delivered S screen event w = .error .subtract) ∧
      (¬s.PassesOn event → s.delivered S screen event w = .ok [])) ∧
    ((∀ event rootX rootY, event.window? = some window → event.position? = some (rootX, rootY) →
        ∃ deliveries, s.delivered S screen event w = .ok deliveries) ↔
      CornerInReach screen) := by
  refine ⟨fun event rootX rootY hevent hposition =>
    ⟨fun hpasses => delivered_of_passesOn hlive hwindow hevent hposition hpasses w,
      fun hheld => delivered_of_not_passesOn hlive hwindow hevent hposition hheld w⟩, ?_, ?_⟩
  · intro h
    -- some motion is not that of the last warp, which had one number
    obtain ⟨seq, hseq⟩ : ∃ seq, s.lastWarp ≠ some seq := by
      by_cases hzero : s.lastWarp = some 0
      · exact ⟨1, by simp [hzero]⟩
      · exact ⟨0, hzero⟩
    exact cornerInReach_of_delivered hlive hwindow hseq w fun rootX rootY =>
      h (.motion .motion seq 0 window rootX rootY) rootX rootY rfl rfl
  · intro hcorner event rootX rootY hevent hposition
    by_cases hpasses : s.PassesOn event
    · rcases delivered_of_passesOn hlive hwindow hevent hposition hpasses w with
        ⟨x, y, -, h⟩ | ⟨hnone, -⟩
      · obtain ⟨deliveries, hok, -⟩ := of_map_eq_ok h
        exact ⟨deliveries, hok⟩
      · obtain ⟨x, y, located⟩ := exists_located_of_cornerInReach hcorner rootX rootY
        exact absurd located (hnone x y)
    · exact ⟨[], delivered_of_not_passesOn hlive hwindow hevent hposition hpasses w⟩

/-- A seat with a registered window. -/
def windowSeat : Seat := ((default : Seat).startInput twoGroupServer 0x500 1 ⟨(), 2⟩).1.2

/-- All positions fit next to a screen far to the right, and the last one is where it is. -/
theorem farScreen_located :
    CommandLine.parseScreen "2147450879,-2147450879,800x600" =
        .ok ⟨2147450879, -2147450879, 2147451679, -2147450279⟩ ∧
      windowSeat.failed = false ∧ windowSeat.windows.lookup? 0x500 = some 1 ∧
      (∀ event rootX rootY, event.window? = some 0x500 → event.position? = some (rootX, rootY) →
        ∃ deliveries, windowSeat.delivered twoGroupServer
          ⟨2147450879, -2147450879, 2147451679, -2147450279⟩ event ⟨(), 2⟩ = .ok deliveries) ∧
      ∃ x y, Located ⟨2147450879, -2147450879, 2147451679, -2147450279⟩ (-2147483648) 2147483647
          x y ∧
        (windowSeat.delivered twoGroupServer ⟨2147450879, -2147450879, 2147451679, -2147450279⟩
          (.button true 0 0x500 1 (-2147483648) 2147483647) ⟨(), 2⟩).map
            (·.filterMap Delivery.position?) = .ok [(x, y)] := by
  obtain ⟨hparse, hlive, hwindow⟩ :
      CommandLine.parseScreen "2147450879,-2147450879,800x600" =
        .ok ⟨2147450879, -2147450879, 2147451679, -2147450279⟩ ∧
      windowSeat.failed = false ∧ windowSeat.windows.lookup? 0x500 = some 1 := by decide +kernel
  have hcorner : CornerInReach ⟨2147450879, -2147450879, 2147451679, -2147450279⟩ := by decide
  obtain ⟨hexact, hfits⟩ := located_iff twoGroupServer ⟨(), 2⟩ hlive hwindow
  refine ⟨hparse, hlive, hwindow, hfits.mpr hcorner, ?_⟩
  obtain ⟨hpassed, -⟩ := hexact (.button true 0 0x500 1 (-2147483648) 2147483647) _ _ rfl rfl
  rcases hpassed (show Pointer.button? 1 true ≠ none by decide) with hdelivered | ⟨hnone, -⟩
  · exact hdelivered
  · obtain ⟨x, y, located⟩ := exists_located_of_cornerInReach hcorner (-2147483648) 2147483647
    exact absurd located (hnone x y)

/-- The origin of the root window has no position next to the leftmost screen: motion there
overflows, and nothing is delivered. -/
theorem leftmostScreen_overflow :
    CommandLine.parseScreen "-2147483648,0,1x1" = .ok ⟨-2147483648, 0, -2147483647, 1⟩ ∧
      windowSeat.failed = false ∧ windowSeat.windows.lookup? 0x500 = some 1 ∧
      windowSeat.delivered twoGroupServer ⟨-2147483648, 0, -2147483647, 1⟩
        (.motion .motion 7 0 0x500 0 0) ⟨(), 2⟩ = .error .subtract ∧
      (fixed16Round 0).toInt - Int32.toInt (-2147483648) = 2147483648 ∧
      ∀ x y, ¬Located ⟨-2147483648, 0, -2147483647, 1⟩ 0 0 x y := by
  obtain ⟨hparse, hlive, hwindow, hdelivered, hdifference⟩ :
      CommandLine.parseScreen "-2147483648,0,1x1" = .ok ⟨-2147483648, 0, -2147483647, 1⟩ ∧
      windowSeat.failed = false ∧ windowSeat.windows.lookup? 0x500 = some 1 ∧
      windowSeat.delivered twoGroupServer ⟨-2147483648, 0, -2147483647, 1⟩
        (.motion .motion 7 0 0x500 0 0) ⟨(), 2⟩ = .error .subtract ∧
      (fixed16Round 0).toInt - Int32.toInt (-2147483648) = 2147483648 := by decide +kernel
  refine ⟨hparse, hlive, hwindow, hdelivered, hdifference, fun x y located => ?_⟩
  have hx := x.toInt_lt
  rw [located.left, hdifference] at hx
  omega

end Seat

end InputBridge
