-- SUMMARY: What is delivered for an event, and which events change the keyboard.
import InputBridge.Proofs.Faults
import InputBridge.Proofs.Keyboard.Rebuilding
import InputBridge.Proofs.Seat.Requests

/-!
# What events do

Most events are input, which the seat passes on. The others are about the keyboard: the
focus, the keymap, and group and locked modifiers.
-/

namespace InputBridge

/-- The delivery is input. -/
def Delivery.IsInput : Delivery → Prop
  | .input .. => True
  | .language .. | .locks _ => False

namespace Seat

open Talk (Yields)

variable {σ : Type} {S : DisplayServer σ} {s s' : Seat} {screen : Rect} {event : Event}
  {deliveries : List Delivery} {press : Bool} {time keycode : UInt32} {window : WindowId}
  {rootX rootY : Int32}

/-! ## Input -/

theorem isInput_inputs (handle : Option Handle) (inputs : List Input) :
    ∀ d ∈ inputs.map (Delivery.input handle), d.IsInput := by
  intro d hd
  obtain ⟨i, -, rfl⟩ := List.mem_map.mp hd
  trivial

theorem onButton_isInput {detail : UInt32}
    (h : s.onButton screen press time window detail rootX rootY = .ok deliveries) :
    ∀ d ∈ deliveries, d.IsInput := by
  unfold onButton at h
  split at h
  · obtain ⟨position, -, h⟩ := of_bind_eq_ok h
    cases h
    exact List.forall_mem_cons.mpr ⟨trivial, List.forall_mem_singleton.mpr trivial⟩
  · cases h
    exact List.forall_mem_nil _

theorem onMotion_isInput {seq : UInt64}
    (h : s.onMotion screen seq time window rootX rootY = .ok deliveries) :
    ∀ d ∈ deliveries, d.IsInput := by
  unfold onMotion at h
  split at h
  · cases h
    exact List.forall_mem_nil _
  split at h
  · cases h
    exact List.forall_mem_nil _
  -- the one position that is computed may be out of reach, and then there is nothing to deliver
  · obtain ⟨position, -, h⟩ := of_bind_eq_ok h
    cases h
    exact List.forall_mem_singleton.mpr trivial

theorem onRawMotion_isInput {mask : List UInt32} {values : List Fixed32} :
    ∀ d ∈ s.onRawMotion time mask values, d.IsInput := by
  unfold onRawMotion
  split
  · exact List.forall_mem_nil _
  · exact List.forall_mem_singleton.mpr trivial

theorem onTouch_isInput {phase : TouchPhase} {id : UInt32} :
    ∀ d ∈ s.onTouch screen phase time window id rootX rootY, d.IsInput := by
  unfold onTouch
  split
  · exact List.forall_mem_nil _
  · exact List.forall_mem_singleton.mpr trivial

theorem onKey_isInput : ∀ d ∈ s.onKey press time window keycode, d.IsInput := by
  unfold onKey
  split
  · exact List.forall_mem_nil _
  · exact isInput_inputs _ _

/-! ## Layouts -/

/-- If the layouts cannot be built the seat has none. -/
theorem rebuildLayouts_yields_error {e : SeatError}
    (h : (s.rebuildLayouts S).Yields (.error e, s')) : s' = { s with layouts := .empty } := by
  unfold rebuildLayouts at h
  obtain ⟨rules, -, h⟩ := h.of_bind
  obtain ⟨keymap, -, h⟩ := h.of_bind
  cases keymap with
  | error refusal =>
    cases h.of_pure
    rfl
  | ok keymap =>
    obtain ⟨w, -, h⟩ := h.of_bind
    -- what the rules and the keymap were is of no account
    generalize hrebuild : Layouts.rebuild keymap _ w.nextLayoutId = rebuilt at h
    obtain ⟨result, layouts, next⟩ := rebuilt
    obtain ⟨-, -, h⟩ := h.of_bind
    cases result with
    | ok _ => cases h.of_pure
    | error e' =>
      cases h.of_pure
      rw [Layouts.rebuild_eq_error hrebuild]
      rfl

/-- New layouts are taken over first, then the locks they give, then their language. -/
theorem refreshLayouts_yields (h : (s.refreshLayouts S).Yields (s', deliveries)) :
    (s' = { s with layouts := .empty } ∧ deliveries = []) ∨
      ∃ layouts s₁ locks,
        { s with layouts }.lockModifiers s.keyboard.lockedModifiers = (s₁, locks) ∧
          s' = s₁.announceLayout.1 ∧ deliveries = locks ++ s₁.announceLayout.2 := by
  -- the locks are told only if the layouts could be built
  unfold refreshLayouts at h
  obtain ⟨⟨r, s₁⟩, hbuilt, h⟩ := h.of_bind
  cases r with
  | error e =>
    obtain ⟨rfl, rfl⟩ := Prod.mk.inj h.of_pure
    exact .inl ⟨rebuildLayouts_yields_error hbuilt, rfl⟩
  | ok _ =>
    obtain ⟨layouts, rfl⟩ := rebuildLayouts_yields hbuilt
    obtain ⟨rfl, rfl⟩ := Prod.mk.inj h.of_pure
    exact .inr ⟨layouts, _, _, rfl, rfl, rfl⟩

/-! ## All events -/

/-- An event is input, or it is about the keyboard. -/
theorem onEvent_yields (h : (s.onEvent S screen event).Yields (s', deliveries)) :
    ((∀ d ∈ deliveries, d.IsInput) ∧ s.Undisturbed s' ∧
        ∀ group lockedModifiers, event ≠ .keyboardState group lockedModifiers) ∨
      (∃ gained window mode detail, event = .focus gained window mode detail ∧
        (s', deliveries) = s.onFocus gained window mode detail) ∨
      (∃ device, (event = .newKeyboard device ∨ event = .keymapChanged) ∧
        ({ s with keyboard.device := device }.refreshLayouts S).Yields (s', deliveries)) ∨
      ∃ group lockedModifiers, event = .keyboardState group lockedModifiers ∧
        (s', deliveries) = s.onKeyboardState group.toUInt32 lockedModifiers.toUInt32 := by
  cases event with
  | button =>
    obtain ⟨rfl, hbutton⟩ := button_yields h
    exact .inl ⟨onButton_isInput hbutton, .refl _, nofun⟩
  | motion =>
    obtain ⟨rfl, hmotion⟩ := motion_yields h
    exact .inl ⟨onMotion_isInput hmotion, .refl _, nofun⟩
  | rawMotion =>
    cases h.of_pure
    exact .inl ⟨onRawMotion_isInput, .refl s, nofun⟩
  | deviceChanged device axes =>
    cases h.of_pure
    exact .inl ⟨List.forall_mem_nil _, onDeviceChanged_undisturbed s device axes, nofun⟩
  | focus gained window mode detail =>
    exact .inr (.inl ⟨gained, window, mode, detail, rfl, h.of_pure⟩)
  | key =>
    cases h.of_pure
    exact .inl ⟨onKey_isInput, .refl s, nofun⟩
  | rawKey =>
    cases h.of_pure
    exact .inl ⟨isInput_inputs _ _, .refl s, nofun⟩
  | touch =>
    cases h.of_pure
    exact .inl ⟨onTouch_isInput, .refl s, nofun⟩
  | newKeyboard device => exact .inr (.inr (.inl ⟨device, .inl rfl, h.of_talk⟩))
  | keymapChanged => exact .inr (.inr (.inl ⟨s.keyboard.device, .inr rfl, h.of_talk⟩))
  | keyboardState group lockedModifiers =>
    exact .inr (.inr (.inr ⟨group, lockedModifiers, rfl, h.of_pure⟩))
  | error =>
    cases h.of_pure
    exact .inl ⟨List.forall_mem_nil _, .refl s, nofun⟩

/-- A seat that works handles the event and sends what it queued, if nothing overflows; a failed
one does nothing. -/
theorem dispatch_yields (h : (s.dispatch S screen event).Yields (s', deliveries)) :
    (s.failed = true ∧ s' = s ∧ deliveries = []) ∨
      s.failed = false ∧ ∃ s₁, (s.onEvent S screen event).Yields (s₁, deliveries) ∧
        s₁.Undisturbed s' := by
  unfold dispatch at h
  split at h
  · next hfailed =>
    obtain ⟨rfl, rfl⟩ := Prod.mk.inj h.of_pure
    exact .inl ⟨hfailed, rfl, rfl⟩
  · next hlive =>
    obtain ⟨⟨s₁, ds⟩, hevent, h⟩ := h.of_bind
    -- the flush comes after the deliveries are known, and changes none of them
    obtain ⟨s₂, hflush, h⟩ := h.of_bind
    obtain ⟨rfl, rfl⟩ := Prod.mk.inj h.of_pure
    exact .inr ⟨by simpa using hlive, s₁, hevent, flushIfPending_undisturbed hflush.of_talk⟩

/-- What an event delivers in a state of the display server, unless it overflows. -/
def delivered (S : DisplayServer σ) (s : Seat) (screen : Rect) (event : Event) (w : World σ) :
    Except Overflow (List Delivery) :=
  ((s.dispatch S screen event).run w).1.map (·.2)

theorem delivered_of_failed (hfailed : s.failed = true) (w : World σ) :
    s.delivered S screen event w = .ok [] := by
  rw [delivered, dispatch, if_pos hfailed]
  rfl

/-- The flush at the end delivers nothing. -/
theorem delivered_of_live (hlive : s.failed = false) (w : World σ) :
    s.delivered S screen event w = ((s.onEvent S screen event).run w).1.map (·.2) := by
  rw [delivered, dispatch, if_neg (by simp [hlive]), ExceptT.run_bind, Talk.bind_apply]
  cases ((s.onEvent S screen event).run w).1 <;> rfl

/-! ## Setting up -/

theorem demand_yields_ok {link : Link} {r : Request} {a : r.Answer}
    (h : Yields (S.demand link r).run (.ok a)) : (S.ask link r).Yields (.ok a) := by
  obtain ⟨answer, hanswer, h⟩ := Yields.of_bind h
  cases answer with
  | error refusal => cases h.of_pure
  | ok a' =>
    cases h.of_pure
    exact hanswer

/-- A seat that is set up had its layouts built for the group that the display server reports,
and then took over the locked modifiers. -/
theorem connect_rebuilds {display : String} (h : (connect S display).Yields (.ok s)) :
    ∃ device report, ∃ bare built : Seat,
      (S.ask s.link (.keyboardReport device)).Yields (.ok report) ∧
      bare.keyboard = { device, group := report.group } ∧
      (bare.rebuildLayouts S).Yields (.ok (), built) ∧
      s = (built.lockModifiers report.lockedModifiers).1 := by
  obtain ⟨link, h⟩ := setUp_of_connect h
  unfold setUp at h
  -- from here on one question after the other, in the order in which they are asked
  obtain ⟨-, -, h⟩ := Yields.of_bind_ok h
  obtain ⟨pointer, -, h⟩ := Yields.of_bind_ok h
  obtain ⟨device, -, h⟩ := Yields.of_bind_ok h
  obtain ⟨report, hreport, h⟩ := Yields.of_bind_ok h
  obtain ⟨⟨r, built⟩, hbuilt, h⟩ := Yields.of_bind_ok h
  obtain ⟨pair, hbuilt, hr⟩ := Yields.of_map (f := Except.ok) hbuilt
  cases hr
  obtain ⟨⟨⟩, hok, h⟩ := Yields.of_bind_ok h
  cases hok.of_pure
  obtain ⟨-, -, h⟩ := Yields.of_bind_ok (x := S.demand link .startEvents) h
  obtain ⟨-, -, h⟩ := Yields.of_bind_ok h
  cases h.of_pure
  -- building the layouts changes only them, and leaves the link that was asked
  obtain ⟨layouts, heq⟩ := rebuildLayouts_yields hbuilt
  refine ⟨device, report, _, built, ?_, rfl, hbuilt, rfl⟩
  rw [heq]
  exact demand_yields_ok hreport

/-- The keyboard begins as the display server reports it, without a focus. -/
theorem connect_keyboard {display : String} (h : (connect S display).Yields (.ok s)) :
    ∃ device report, (S.ask s.link (.keyboardReport device)).Yields (.ok report) ∧
      s.keyboard = {
        device
        group := report.group
        lockedModifiers := report.lockedModifiers
        locks := locksOf s.layouts.masks report.lockedModifiers } := by
  obtain ⟨device, report, bare, built, hreport, hbare, hbuilt, rfl⟩ := connect_rebuilds h
  obtain ⟨layouts, rfl⟩ := rebuildLayouts_yields hbuilt
  refine ⟨device, report, hreport, ?_⟩
  rw [lockModifiers]
  dsimp only
  rw [hbare]

end Seat

end InputBridge
