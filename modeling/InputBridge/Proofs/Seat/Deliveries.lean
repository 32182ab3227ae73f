-- SUMMARY: The window that a delivery is for, and the handle that it names.
import InputBridge.Proofs.Faults
import InputBridge.Proofs.Seat.Continuity

/-!
# What deliveries are for

Input that names a handle is for the window of the event that caused it, and a
language change is for the window with the keyboard focus. The handle is the one that
the seat has the window under.
-/

namespace InputBridge

/-- The window that an event happens in. -/
def Event.window? : Event → Option WindowId
  | .button _ _ window .. | .motion _ _ _ window .. | .key _ _ window _
  | .touch _ _ window .. => some window
  | _ => none

/-- The delivery is for the window, given the event and the seat after it. -/
def Delivery.IsFor (window : WindowId) (event : Event) (s : Seat) : Delivery → Prop
  | .input (some _) _ => event.window? = some window
  | .language _ _ => s.keyboard.focus = some window
  | .input none _ | .locks _ => False

/-- The handle that a delivery names. -/
def Delivery.handle? : Delivery → Option Handle
  | .input handle _ => handle
  | .language handle _ => some handle
  | .locks _ => none

namespace Seat

variable {σ : Type} {S : DisplayServer σ} {s s' : Seat} {event : Event} {d : Delivery}
  {deliveries : List Delivery} {window : WindowId} {handle : Handle}

/-- Every handle that is delivered to is the one of the window it is for. -/
def Aimed (s : Seat) (event : Event) (deliveries : List Delivery) : Prop :=
  ∀ d ∈ deliveries, ∀ window handle, d.IsFor window event s → d.handle? = some handle →
    s.windows.lookup? window = some handle

theorem aimed_nil (s : Seat) (event : Event) : s.Aimed event [] := by
  intro d hd
  cases hd

theorem Aimed.append {more : List Delivery} (h : s.Aimed event deliveries)
    (h' : s.Aimed event more) : s.Aimed event (deliveries ++ more) := by
  intro d hd
  rcases List.mem_append.mp hd with hd | hd
  · exact h d hd
  · exact h' d hd

/-- Changes of the seat that leave windows and focus alone are of no concern. -/
theorem Aimed.congr (h : s.Aimed event deliveries) (hwindows : s'.windows = s.windows)
    (hfocus : s'.keyboard.focus = s.keyboard.focus) : s'.Aimed event deliveries := by
  intro d hd window handle hfor hhandle
  rw [hwindows]
  refine h d hd window handle ?_ hhandle
  cases d with
  | input h' i => cases h' <;> exact hfor
  | language h' hkl => exact hfocus.symm.trans hfor
  | locks l => exact hfor

theorem aimed_locks (s : Seat) (event : Event) (locks : Locks) : s.Aimed event [.locks locks] := by
  intro d hd window handle hfor
  obtain rfl := List.mem_singleton.mp hd
  cases hfor

/-- Inputs under the handle of the event's window. -/
theorem aimed_inputs (hwindow : event.window? = some window)
    (hhandle : s.windows.lookup? window = some handle) (inputs : List Input) :
    s.Aimed event (inputs.map (.input (some handle))) := by
  intro d hd window' handle' hfor hd'
  obtain ⟨i, -, rfl⟩ := List.mem_map.mp hd
  cases hwindow.symm.trans hfor
  cases hd'
  exact hhandle

theorem aimed_raw (s : Seat) (event : Event) (inputs : List Input) :
    s.Aimed event (inputs.map (.input none)) := by
  intro d hd window handle hfor
  obtain ⟨i, -, rfl⟩ := List.mem_map.mp hd
  cases hfor

/-! ## Pointing and typing -/

theorem onButton_aimed {screen : Rect} {press : Bool} {time detail : UInt32} {rootX rootY : Int32}
    (h : s.onButton screen press time window detail rootX rootY = .ok deliveries) :
    s.Aimed (.button press time window detail rootX rootY) deliveries := by
  unfold onButton at h
  split at h
  · next handle _ _ hhandle _ =>
    obtain ⟨position, -, h⟩ := of_bind_eq_ok h
    cases h
    -- once without a window and once for it
    exact (aimed_raw s _ [_]).append (aimed_inputs rfl hhandle [_])
  · cases h
    exact aimed_nil s _

theorem onMotion_aimed {screen : Rect} {kind : MotionKind} {seq : UInt64} {time : UInt32}
    {rootX rootY : Int32}
    (h : s.onMotion screen seq time window rootX rootY = .ok deliveries) :
    s.Aimed (.motion kind seq time window rootX rootY) deliveries := by
  unfold onMotion at h
  split at h
  · cases h
    exact aimed_nil s _
  split at h
  · cases h
    exact aimed_nil s _
  · next handle hhandle =>
    -- wherever the pointer is, the input is for the window of the event
    obtain ⟨position, -, h⟩ := of_bind_eq_ok h
    cases h
    exact aimed_inputs rfl hhandle [_]

theorem onRawMotion_aimed {time : UInt32} {mask : List UInt32} {values : List Fixed32} :
    s.Aimed event (s.onRawMotion time mask values) := by
  unfold onRawMotion
  split
  · exact aimed_nil s _
  · exact aimed_raw s _ [_]

theorem onTouch_aimed {screen : Rect} {phase : TouchPhase} {time id : UInt32}
    {rootX rootY : Int32} : s.Aimed (.touch phase time window id rootX rootY)
      (s.onTouch screen phase time window id rootX rootY) := by
  unfold onTouch
  split
  · exact aimed_nil s _
  · next handle hhandle => exact aimed_inputs rfl hhandle [_]

theorem onKey_aimed {press : Bool} {time keycode : UInt32} :
    s.Aimed (.key press time window keycode) (s.onKey press time window keycode) := by
  unfold onKey
  split
  · exact aimed_nil s _
  · next handle hhandle => exact aimed_inputs rfl hhandle _

/-! ## Focus and layouts -/

theorem announceLayout_aimed : s.announceLayout.1.Aimed event s.announceLayout.2 := by
  unfold announceLayout
  split
  · next layout handle hlayout hfocus =>
    obtain ⟨window, hwindow, hhandle⟩ := Option.bind_eq_some_iff.mp hfocus
    split
    · exact aimed_nil s event
    · intro d hd window' handle' hfor hd'
      obtain rfl := List.mem_singleton.mp hd
      cases hwindow.symm.trans hfor
      cases hd'
      exact hhandle
  · exact aimed_nil s event

theorem lockModifiers_aimed (lockedModifiers : UInt32) :
    s'.Aimed event (s.lockModifiers lockedModifiers).2 := by
  unfold lockModifiers
  dsimp only
  split
  · exact aimed_nil s' event
  · exact aimed_locks s' event _

theorem onFocus_aimed {gained : Bool} {mode detail : UInt8} :
    (s.onFocus gained window mode detail).1.Aimed event
      (s.onFocus gained window mode detail).2 := by
  unfold onFocus
  split
  · exact aimed_nil _ event
  split
  · exact aimed_nil _ event
  split
  · exact aimed_nil _ event
  split
  · exact aimed_nil _ event
  split
  · exact aimed_nil _ event
  · -- the focus is gained
    exact (aimed_locks _ event _).append announceLayout_aimed

theorem onKeyboardState_aimed {group lockedModifiers : UInt32} :
    (s.onKeyboardState group lockedModifiers).1.Aimed event
      (s.onKeyboardState group lockedModifiers).2 := by
  -- the locks are delivered last and are for no window
  have locked : ∀ {r : Seat × List Delivery}, r.1.Aimed event r.2 →
      (r.1.lockModifiers lockedModifiers).1.Aimed event
        (r.2 ++ (r.1.lockModifiers lockedModifiers).2) :=
    fun h => (h.congr rfl rfl).append (lockModifiers_aimed lockedModifiers)
  unfold onKeyboardState
  refine locked (r := ite _ _ _) ?_
  split
  · dsimp only
    split
    · exact announceLayout_aimed
    · exact aimed_nil _ event
  · exact aimed_nil s event

theorem refreshLayouts_aimed (h : (s.refreshLayouts S).Yields (s', deliveries)) :
    s'.Aimed event deliveries := by
  unfold refreshLayouts at h
  obtain ⟨⟨r, s₁⟩, -, h⟩ := h.of_bind
  cases r with
  | error e =>
    cases h.of_pure
    exact aimed_nil s' event
  | ok _ =>
    cases h.of_pure
    exact (lockModifiers_aimed _).append announceLayout_aimed

/-! ## All events -/

theorem onEvent_aimed {screen : Rect} (h : (s.onEvent S screen event).Yields (s', deliveries)) :
    s'.Aimed event deliveries := by
  cases event with
  | button =>
    obtain ⟨rfl, hbutton⟩ := button_yields h
    exact onButton_aimed hbutton
  | motion =>
    obtain ⟨rfl, hmotion⟩ := motion_yields h
    exact onMotion_aimed hmotion
  | rawMotion =>
    cases h.of_pure
    exact onRawMotion_aimed
  | deviceChanged | error =>
    cases h.of_pure
    exact aimed_nil _ _
  | focus gained window mode detail =>
    obtain ⟨rfl, rfl⟩ := Prod.mk.inj h.of_pure
    exact onFocus_aimed
  | key =>
    cases h.of_pure
    exact onKey_aimed
  | rawKey =>
    cases h.of_pure
    exact aimed_raw _ _ _
  | touch =>
    cases h.of_pure
    exact onTouch_aimed
  | newKeyboard | keymapChanged => exact refreshLayouts_aimed h.of_talk
  | keyboardState group lockedModifiers =>
    obtain ⟨rfl, rfl⟩ := Prod.mk.inj h.of_pure
    exact onKeyboardState_aimed

theorem dispatch_aimed {screen : Rect} (h : (s.dispatch S screen event).Yields (s', deliveries)) :
    s'.Aimed event deliveries := by
  unfold dispatch at h
  split at h
  · cases h.of_pure
    exact aimed_nil _ event
  · obtain ⟨⟨s₁, ds⟩, hevent, h⟩ := h.of_bind
    obtain ⟨s₂, hflush, h⟩ := h.of_bind
    cases h.of_pure
    have same := flushIfPending_undisturbed hflush.of_talk
    exact (onEvent_aimed hevent).congr same.windows (by rw [same.keyboard])

end Seat

end InputBridge
