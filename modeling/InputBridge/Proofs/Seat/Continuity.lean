-- SUMMARY: What every operation of a seat keeps: its display, its link, a failure, and its windows.
import InputBridge.Proofs.Talk
import InputBridge.Seat.Dispatch

/-!
# What operations leave of a seat

A seat keeps its display and its link for good, and once it has failed it stays
failed. Only registering and stopping windows touches its window table.
-/

namespace InputBridge

namespace Seat

variable {σ : Type} {S : DisplayServer σ} {s s' s'' : Seat}

/-- `s'` is `s` at a later time. -/
structure Continues (s s' : Seat) : Prop where
  display : s'.display = s.display
  link : s'.link = s.link
  failed : s.failed = true → s'.failed = true

/-- `s'` is `s` at a later time, with the same windows registered. -/
structure Keeps (s s' : Seat) : Prop extends Continues s s' where
  windows : s'.windows = s.windows

/-- `s'` is `s` at a later time, with the same windows, keyboard and layouts. -/
structure Undisturbed (s s' : Seat) : Prop extends Keeps s s' where
  keyboard : s'.keyboard = s.keyboard
  layouts : s'.layouts = s.layouts

theorem Continues.refl (s : Seat) : s.Continues s := ⟨rfl, rfl, id⟩

theorem Continues.trans (h : s.Continues s') (h' : s'.Continues s'') : s.Continues s'' :=
  ⟨h'.display.trans h.display, h'.link.trans h.link, h'.failed ∘ h.failed⟩

theorem Keeps.refl (s : Seat) : s.Keeps s := ⟨.refl s, rfl⟩

theorem Keeps.trans (h : s.Keeps s') (h' : s'.Keeps s'') : s.Keeps s'' :=
  ⟨h.toContinues.trans h'.toContinues, h'.windows.trans h.windows⟩

theorem Undisturbed.refl (s : Seat) : s.Undisturbed s := ⟨.refl s, rfl, rfl⟩

theorem Undisturbed.trans (h : s.Undisturbed s') (h' : s'.Undisturbed s'') : s.Undisturbed s'' :=
  ⟨h.toKeeps.trans h'.toKeeps, h'.keyboard.trans h.keyboard, h'.layouts.trans h.layouts⟩

/-! ## Operations that ask nothing

What they change of a seat is said once; what they leave of it can be read off.
-/

theorem announceLayout_fst (s : Seat) :
    ∃ lastHkl, s.announceLayout.1 = { s with keyboard.lastHkl := lastHkl } := by
  unfold announceLayout
  split
  · split <;> exact ⟨_, rfl⟩
  · exact ⟨_, rfl⟩

theorem onDeviceChanged_eq (s : Seat) (device : UInt16) (axes : List Axis) :
    ∃ pointer, s.onDeviceChanged device axes = { s with pointer } := by
  unfold onDeviceChanged
  split <;> exact ⟨_, rfl⟩

theorem onFocus_fst (s : Seat) (gained : Bool) (window : WindowId) (mode detail : UInt8) :
    ∃ grabbed focus lastHkl, (s.onFocus gained window mode detail).1 =
      { s with keyboard := { s.keyboard with grabbed, focus, lastHkl } } := by
  -- one case for each early return, and the last for the focus that is gained
  unfold onFocus
  split
  · exact ⟨_, _, _, rfl⟩
  split
  · exact ⟨_, _, _, rfl⟩
  split
  · exact ⟨_, _, _, rfl⟩
  split
  · split <;> exact ⟨_, _, _, rfl⟩
  split
  · exact ⟨_, _, _, rfl⟩
  · obtain ⟨lastHkl, heq⟩ := { s with keyboard.focus := some window }.announceLayout_fst
    exact ⟨_, _, lastHkl, heq⟩

theorem onKeyboardState_fst (s : Seat) (group lockedModifiers : UInt32) :
    ∃ keyboard layouts, (s.onKeyboardState group lockedModifiers).1 =
      { s with keyboard, layouts } := by
  -- whatever the group does, the locks are taken over after it
  have locked : ∀ {r : Seat × List Delivery},
      (∃ keyboard layouts, r.1 = { s with keyboard, layouts }) →
      ∃ keyboard layouts, (r.1.lockModifiers lockedModifiers).1 = { s with keyboard, layouts } := by
    rintro r ⟨keyboard, layouts, heq⟩
    rw [heq]
    exact ⟨_, layouts, rfl⟩
  unfold onKeyboardState
  refine locked (r := ite _ _ _) ?_
  split
  · dsimp only
    split
    · next layouts _ =>
      obtain ⟨lastHkl, heq⟩ := Seat.announceLayout_fst
        { s with keyboard.group := group, layouts }
      exact ⟨_, layouts, heq⟩
    · exact ⟨_, s.layouts, rfl⟩
  · exact ⟨s.keyboard, s.layouts, rfl⟩

theorem fail_undisturbed (s : Seat) : s.Undisturbed s.fail :=
  ⟨⟨⟨rfl, rfl, fun _ => rfl⟩, rfl⟩, rfl, rfl⟩

theorem announceLayout_keeps (s : Seat) : s.Keeps s.announceLayout.1 := by
  obtain ⟨lastHkl, heq⟩ := s.announceLayout_fst
  rw [heq]
  exact ⟨⟨rfl, rfl, id⟩, rfl⟩

theorem lockModifiers_keeps (s : Seat) (lockedModifiers : UInt32) :
    s.Keeps (s.lockModifiers lockedModifiers).1 := ⟨⟨rfl, rfl, id⟩, rfl⟩

theorem onDeviceChanged_undisturbed (s : Seat) (device : UInt16) (axes : List Axis) :
    s.Undisturbed (s.onDeviceChanged device axes) := by
  obtain ⟨pointer, heq⟩ := s.onDeviceChanged_eq device axes
  rw [heq]
  exact ⟨⟨⟨rfl, rfl, id⟩, rfl⟩, rfl, rfl⟩

theorem onFocus_keeps (s : Seat) (gained : Bool) (window : WindowId) (mode detail : UInt8) :
    s.Keeps (s.onFocus gained window mode detail).1 := by
  obtain ⟨grabbed, focus, lastHkl, heq⟩ := s.onFocus_fst gained window mode detail
  rw [heq]
  exact ⟨⟨rfl, rfl, id⟩, rfl⟩

theorem onKeyboardState_keeps (s : Seat) (group lockedModifiers : UInt32) :
    s.Keeps (s.onKeyboardState group lockedModifiers).1 := by
  obtain ⟨keyboard, layouts, heq⟩ := s.onKeyboardState_fst group lockedModifiers
  rw [heq]
  exact ⟨⟨rfl, rfl, id⟩, rfl⟩

/-! ## Operations that ask the display server -/

/-- A flush clears the mark, and a refused one fails the seat. -/
theorem flushIfPending_yields (h : (s.flushIfPending S).Yields s') :
    s' = s ∨ s.failed = false ∧
      (s' = { s with flushPending := false } ∨ s' = { s with flushPending := false }.fail) := by
  unfold flushIfPending at h
  split at h
  · exact .inl h.of_pure
  · next hpending =>
    simp only [Bool.or_eq_true, not_or, Bool.not_eq_true] at hpending
    refine .inr ⟨hpending.2, ?_⟩
    obtain ⟨answer, -, h⟩ := h.of_bind
    cases answer with
    | ok _ => exact .inl h.of_pure
    | error _ => exact .inr h.of_pure

theorem flushIfPending_undisturbed (h : (s.flushIfPending S).Yields s') : s.Undisturbed s' := by
  rcases flushIfPending_yields h with rfl | ⟨-, rfl | rfl⟩
  · exact .refl _
  · exact ⟨⟨⟨rfl, rfl, id⟩, rfl⟩, rfl, rfl⟩
  · exact ⟨⟨⟨rfl, rfl, fun _ => rfl⟩, rfl⟩, rfl, rfl⟩

theorem rebuildLayouts_yields {r : Except SeatError Unit}
    (h : (s.rebuildLayouts S).Yields (r, s')) : ∃ layouts, s' = { s with layouts } := by
  unfold rebuildLayouts at h
  obtain ⟨rules, -, h⟩ := h.of_bind
  obtain ⟨keymap, -, h⟩ := h.of_bind
  cases keymap with
  | error refusal =>
    cases h.of_pure
    exact ⟨_, rfl⟩
  | ok keymap =>
    obtain ⟨w, -, h⟩ := h.of_bind
    obtain ⟨-, -, h⟩ := h.of_bind
    cases h.of_pure
    exact ⟨_, rfl⟩

theorem refreshLayouts_keeps {deliveries : List Delivery}
    (h : (s.refreshLayouts S).Yields (s', deliveries)) : s.Keeps s' := by
  unfold refreshLayouts at h
  obtain ⟨⟨r, s₁⟩, hbuilt, h⟩ := h.of_bind
  obtain ⟨layouts, rfl⟩ := rebuildLayouts_yields hbuilt
  -- on an error the seat is left without layouts, and nothing more is done
  have built : s.Keeps { s with layouts } := ⟨⟨rfl, rfl, id⟩, rfl⟩
  cases r with
  | error e =>
    cases h.of_pure
    exact built
  | ok _ =>
    cases h.of_pure
    exact built.trans ((lockModifiers_keeps _ _).trans (announceLayout_keeps _))

/-- Buttons leave the seat as it is, if their position fits. -/
theorem button_yields {screen : Rect} {press : Bool} {time detail : UInt32} {window : WindowId}
    {rootX rootY : Int32} {deliveries : List Delivery}
    (h : (s.onEvent S screen (.button press time window detail rootX rootY)).Yields
      (s', deliveries)) :
    s' = s ∧ s.onButton screen press time window detail rootX rootY = .ok deliveries := by
  obtain ⟨ds, hbutton, h⟩ := h.of_bind
  cases h.of_pure
  exact ⟨rfl, hbutton.of_except⟩

/-- Motion leaves the seat as it is, if its position fits. -/
theorem motion_yields {screen : Rect} {kind : MotionKind} {seq : UInt64} {time : UInt32}
    {window : WindowId} {rootX rootY : Int32} {deliveries : List Delivery}
    (h : (s.onEvent S screen (.motion kind seq time window rootX rootY)).Yields
      (s', deliveries)) :
    s' = s ∧ s.onMotion screen seq time window rootX rootY = .ok deliveries := by
  obtain ⟨ds, hmotion, h⟩ := h.of_bind
  cases h.of_pure
  exact ⟨rfl, hmotion.of_except⟩

theorem onEvent_keeps {screen : Rect} {event : Event} {deliveries : List Delivery}
    (h : (s.onEvent S screen event).Yields (s', deliveries)) : s.Keeps s' := by
  cases event with
  | button =>
    obtain ⟨rfl, -⟩ := button_yields h
    exact .refl _
  | motion =>
    obtain ⟨rfl, -⟩ := motion_yields h
    exact .refl _
  | rawMotion | key | rawKey | touch | error =>
    cases h.of_pure
    exact .refl s
  | deviceChanged device axes =>
    cases h.of_pure
    exact (onDeviceChanged_undisturbed s device axes).toKeeps
  | focus gained window mode detail =>
    obtain rfl : s' = (s.onFocus gained window mode detail).1 := congrArg Prod.fst h.of_pure
    exact onFocus_keeps s gained window mode detail
  | newKeyboard device =>
    have changed : s.Keeps { s with keyboard.device := device } := ⟨⟨rfl, rfl, id⟩, rfl⟩
    exact changed.trans (refreshLayouts_keeps h.of_talk)
  | keymapChanged => exact refreshLayouts_keeps h.of_talk
  | keyboardState group lockedModifiers =>
    obtain rfl : s' = (s.onKeyboardState group.toUInt32 lockedModifiers.toUInt32).1 :=
      congrArg Prod.fst h.of_pure
    exact onKeyboardState_keeps s group.toUInt32 lockedModifiers.toUInt32

theorem dispatch_keeps {screen : Rect} {event : Event} {deliveries : List Delivery}
    (h : (s.dispatch S screen event).Yields (s', deliveries)) : s.Keeps s' := by
  unfold dispatch at h
  split at h
  · cases h.of_pure
    exact .refl s
  · -- the requests that the event has queued go out at its end
    obtain ⟨⟨s₁, ds⟩, hevent, h⟩ := h.of_bind
    obtain ⟨s₂, hflush, h⟩ := h.of_bind
    cases h.of_pure
    exact (onEvent_keeps hevent).trans (flushIfPending_undisturbed hflush.of_talk).toKeeps

theorem clip_yields {rect : Option Rect} {screen : Rect} {r : Except SeatError Unit}
    (h : (s.clip S rect screen).Yields (r, s')) :
    ∃ barriers, s' = { s with barriers, flushPending := true } := by
  unfold clip at h
  -- the old barriers are deleted in any case, whether or not new ones can be made
  obtain ⟨-, -, h⟩ := h.of_bind
  cases rect with
  | none =>
    cases h.of_pure
    exact ⟨_, rfl⟩
  | some rect =>
    obtain ⟨created, -, h⟩ := h.of_bind
    cases created with
    | ok barriers =>
      cases h.of_pure
      exact ⟨_, rfl⟩
    | error refusal =>
      cases h.of_pure
      exact ⟨_, rfl⟩

theorem clip_undisturbed {rect : Option Rect} {screen : Rect} {r : Except SeatError Unit}
    (h : (s.clip S rect screen).Yields (r, s')) : s.Undisturbed s' := by
  obtain ⟨barriers, rfl⟩ := clip_yields h
  exact ⟨⟨⟨rfl, rfl, id⟩, rfl⟩, rfl, rfl⟩

theorem warp_yields {x y : Int32} {screen : Rect} {r : Except SeatError Unit}
    (h : (s.warp S x y screen).Yields (r, s')) :
    ∃ lastWarp flushPending, s' = { s with lastWarp, flushPending } := by
  unfold warp at h
  obtain ⟨seq, -, h⟩ := h.of_bind
  cases seq with
  | ok seq =>
    cases h.of_pure
    exact ⟨_, _, rfl⟩
  | error refusal =>
    cases h.of_pure
    exact ⟨_, _, rfl⟩

theorem warp_undisturbed {x y : Int32} {screen : Rect} {r : Except SeatError Unit}
    (h : (s.warp S x y screen).Yields (r, s')) : s.Undisturbed s' := by
  obtain ⟨lastWarp, flushPending, rfl⟩ := warp_yields h
  exact ⟨⟨⟨rfl, rfl, id⟩, rfl⟩, rfl, rfl⟩

end Seat

end InputBridge
