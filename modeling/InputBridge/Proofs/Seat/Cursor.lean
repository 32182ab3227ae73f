-- SUMMARY: Which operations of a seat are about barriers and warps.
import InputBridge.Proofs.Recording.Kinds
import InputBridge.Proofs.Seat.Events
import InputBridge.Proofs.Seat.Recorded

/-!
# What operations leave of the cursor

A seat confines the pointer or warps it when it is told to, and at no other time. Whatever else it
does, it makes other requests, and it keeps its barriers and the number of its last warp.
-/

namespace InputBridge

/-- Whether the request confines the pointer, frees it or moves it. -/
def Request.isCursor : Request → Bool
  | .warp .. | .createBarrier _ | .deleteBarrier _ => true
  | .barrierSupport | .pointer | .keyboard | .keyboardReport _ | .rules | .keymap _ | .startEvents
  | .flush | .selectInput .. => false

namespace Seat

open Talk (Yields AsksOnly)

variable {σ : Type} {S : DisplayServer σ} {s s' s'' : Seat} {l l' : List Call} {t : Step}
  {screen : Rect} {link : Link}

/-! ## Requests -/

/-- A request that is not about the cursor. -/
def Elsewhere (r : Request) : Prop := r.isCursor = false

theorem startInput_elsewhere (s : Seat) (window : WindowId) (handle : Handle) :
    AsksOnly Elsewhere (s.startInput S.recorded window handle) := by
  unfold startInput
  split
  · exact .pure _
  split
  · exact .pure _
  refine .bind (.ask rfl) fun answer => ?_
  cases answer <;> exact .pure _

theorem stopInput_elsewhere (s : Seat) (window : WindowId) :
    AsksOnly Elsewhere (s.stopInput S.recorded window) := by
  unfold stopInput
  split
  · exact .pure _
  dsimp only
  split
  · exact .pure _
  · exact .bind (.map (.ask rfl)) fun _ => .pure _

theorem flushIfPending_elsewhere (s : Seat) :
    AsksOnly Elsewhere (s.flushIfPending S.recorded) := by
  unfold flushIfPending
  split
  · exact .pure _
  · refine .bind (.ask rfl) fun answer => ?_
    cases answer <;> exact .pure _

theorem rebuildLayouts_elsewhere (s : Seat) :
    AsksOnly Elsewhere (s.rebuildLayouts S.recorded) := by
  refine .bind (.ask rfl) fun rules => .bind (.ask rfl) fun keymap => ?_
  cases keymap with
  | error refusal => exact .pure _
  | ok keymap => exact .bind .get fun _ => .bind (.modify fun _ => rfl) fun _ => .pure _

theorem refreshLayouts_elsewhere (s : Seat) :
    AsksOnly Elsewhere (s.refreshLayouts S.recorded) := by
  refine .bind (rebuildLayouts_elsewhere s) fun ⟨built, _⟩ => ?_
  cases built <;> exact .pure _

theorem dispatch_elsewhere (s : Seat) (screen : Rect) (event : Event) :
    AsksOnly Elsewhere (s.dispatch S.recorded screen event).run := by
  have elsewhere : AsksOnly Elsewhere (s.onEvent S.recorded screen event).run := by
    cases event with
    | newKeyboard | keymapChanged => exact .map (refreshLayouts_elsewhere _)
    | button | motion => exact .bind_run (.pure _) fun _ => .pure _
    | rawMotion | deviceChanged | focus | key | rawKey | touch | keyboardState | error =>
      exact .pure _
  unfold dispatch
  split
  · exact .pure _
  · exact .bind_run elsewhere fun _ => .bind_run (.map (flushIfPending_elsewhere _)) fun _ =>
      .pure _

theorem setUp_elsewhere (display : String) (link : Link) :
    AsksOnly Elsewhere (setUp S.recorded display link).run := by
  refine .bind_run (.demand rfl) fun _ => .bind_run (.demand rfl) fun pointer =>
    .bind_run (.demand rfl) fun device => .bind_run (.demand rfl) fun report =>
    .bind_run (.map (rebuildLayouts_elsewhere _)) fun ⟨built, _⟩ => .bind_run (.pure _) fun _ =>
    .bind_run (.demand rfl) fun _ => .bind_run (.demand rfl) fun _ => .pure _

/-! ## The cursor that the seat has -/

/-- Link, barriers and the last warp are as they were. -/
structure SameCursor (s s' : Seat) : Prop where
  link : s'.link = s.link
  barriers : s'.barriers = s.barriers
  lastWarp : s'.lastWarp = s.lastWarp

theorem SameCursor.refl (s : Seat) : s.SameCursor s := ⟨rfl, rfl, rfl⟩

theorem SameCursor.trans (h : s.SameCursor s') (h' : s'.SameCursor s'') : s.SameCursor s'' :=
  ⟨h'.link.trans h.link, h'.barriers.trans h.barriers, h'.lastWarp.trans h.lastWarp⟩

theorem announceLayout_sameCursor (s : Seat) : s.SameCursor s.announceLayout.1 := by
  obtain ⟨lastHkl, heq⟩ := s.announceLayout_fst
  rw [heq]
  exact ⟨rfl, rfl, rfl⟩

theorem onDeviceChanged_sameCursor (s : Seat) (device : UInt16) (axes : List Axis) :
    s.SameCursor (s.onDeviceChanged device axes) := by
  obtain ⟨pointer, heq⟩ := s.onDeviceChanged_eq device axes
  rw [heq]
  exact ⟨rfl, rfl, rfl⟩

theorem onFocus_sameCursor (s : Seat) (gained : Bool) (window : WindowId) (mode detail : UInt8) :
    s.SameCursor (s.onFocus gained window mode detail).1 := by
  obtain ⟨grabbed, focus, lastHkl, heq⟩ := s.onFocus_fst gained window mode detail
  rw [heq]
  exact ⟨rfl, rfl, rfl⟩

theorem onKeyboardState_sameCursor (s : Seat) (group lockedModifiers : UInt32) :
    s.SameCursor (s.onKeyboardState group lockedModifiers).1 := by
  obtain ⟨keyboard, layouts, heq⟩ := s.onKeyboardState_fst group lockedModifiers
  rw [heq]
  exact ⟨rfl, rfl, rfl⟩

theorem refreshLayouts_sameCursor {deliveries : List Delivery}
    (h : (s.refreshLayouts S).Yields (s', deliveries)) : s.SameCursor s' := by
  rcases refreshLayouts_yields h with ⟨rfl, -⟩ | ⟨layouts, s₁, locks, hlocked, rfl, -⟩
  · exact ⟨rfl, rfl, rfl⟩
  · obtain rfl : ({ s with layouts }.lockModifiers s.keyboard.lockedModifiers).1 = s₁ :=
      congrArg Prod.fst hlocked
    have locked : s.SameCursor
        ({ s with layouts }.lockModifiers s.keyboard.lockedModifiers).1 := ⟨rfl, rfl, rfl⟩
    exact locked.trans (announceLayout_sameCursor _)

theorem flushIfPending_sameCursor (h : (s.flushIfPending S).Yields s') : s.SameCursor s' := by
  rcases flushIfPending_yields h with rfl | ⟨-, rfl | rfl⟩ <;> exact ⟨rfl, rfl, rfl⟩

theorem dispatch_sameCursor {event : Event} {deliveries : List Delivery}
    (h : (s.dispatch S screen event).Yields (s', deliveries)) : s.SameCursor s' := by
  unfold dispatch at h
  split at h
  · cases h.of_pure
    exact .refl s
  obtain ⟨⟨s₁, ds⟩, hevent, h⟩ := h.of_bind
  obtain ⟨s₂, hflush, h⟩ := h.of_bind
  cases h.of_pure
  -- the flush at the end may fail the seat, but does not touch the cursor
  refine SameCursor.trans ?_ (flushIfPending_sameCursor hflush.of_talk)
  cases event with
  | button =>
    obtain ⟨rfl, -⟩ := button_yields hevent
    exact .refl _
  | motion =>
    obtain ⟨rfl, -⟩ := motion_yields hevent
    exact .refl _
  | rawMotion | key | rawKey | touch | error =>
    -- none of these changes the seat at all
    cases hevent.of_pure
    exact .refl s
  | deviceChanged device axes =>
    cases hevent.of_pure
    exact onDeviceChanged_sameCursor s device axes
  | focus gained window mode detail =>
    obtain rfl : s₁ = (s.onFocus gained window mode detail).1 := congrArg Prod.fst hevent.of_pure
    exact onFocus_sameCursor s gained window mode detail
  | newKeyboard device =>
    have changed : s.SameCursor { s with keyboard.device := device } := ⟨rfl, rfl, rfl⟩
    exact changed.trans (refreshLayouts_sameCursor hevent.of_talk)
  | keymapChanged => exact refreshLayouts_sameCursor hevent.of_talk
  | keyboardState group lockedModifiers =>
    obtain rfl : s₁ = (s.onKeyboardState group.toUInt32 lockedModifiers.toUInt32).1 :=
      congrArg Prod.fst hevent.of_pure
    exact onKeyboardState_sameCursor s group.toUInt32 lockedModifiers.toUInt32

theorem startInput_sameCursor {window : WindowId} {handle : Handle} {r : Except SeatError Unit}
    (h : (s.startInput S window handle).Yields (r, s')) : s.SameCursor s' := by
  rcases startInput_yields h with ⟨e, -, rfl⟩ | ⟨-, windows, -, ⟨-, rfl⟩ | ⟨refusal, -, rfl⟩⟩ <;>
    exact ⟨rfl, rfl, rfl⟩

theorem stopInput_sameCursor {window : WindowId} {r : Option Handle}
    (h : (s.stopInput S window).Yields (r, s')) : s.SameCursor s' := by
  unfold stopInput at h
  split at h
  · cases h.of_pure
    exact .refl s
  dsimp only at h
  -- a failed seat does not ask the server, and any seat may lose the focus
  split at h
  · cases h.of_pure
    split <;> exact ⟨rfl, rfl, rfl⟩
  · obtain ⟨-, -, h⟩ := h.of_bind
    cases h.of_pure
    split <;> exact ⟨rfl, rfl, rfl⟩

/-! ## Any step -/

/-- A step confines the pointer or frees it, or warps it, or has nothing to do with it. -/
theorem Step.Calls.cursor_cases (calls : t.Calls S l l') :
    (∃ rect screen, t.operation = .clip rect screen ∧
      (t.before.clip S.recorded rect screen).Leads l (t.result, t.after) l') ∨
    (∃ x y screen, t.operation = .warp x y screen ∧
      (t.before.warp S.recorded x y screen).Leads l (t.result, t.after) l') ∨
    (∀ rect screen, t.operation ≠ .clip rect screen) ∧
      (∀ x y screen, t.operation ≠ .warp x y screen) ∧
      t.before.SameCursor t.after ∧ Adds (Call.OfKind Elsewhere) l l' := by
  -- of all operations only clipping and warping are about the cursor
  obtain ⟨before, operation, result, deliveries, after⟩ := t
  cases operation with
  | event screen e =>
    obtain ⟨⟨s, ds⟩, m, hdispatch, h⟩ := Checked.Leads.of_bind calls
    obtain ⟨heq, rfl⟩ := h.of_pure
    cases heq
    exact .inr (.inr ⟨nofun, nofun, dispatch_sameCursor hdispatch.yields,
      dispatch_elsewhere _ _ _ _ _ _ hdispatch⟩)
  | startInput window handle =>
    obtain ⟨⟨r, s⟩, m, hstart, h⟩ := Checked.Leads.of_bind calls
    obtain ⟨heq, rfl⟩ := h.of_pure
    cases heq
    exact .inr (.inr ⟨nofun, nofun, startInput_sameCursor hstart.of_talk.yields,
      startInput_elsewhere _ _ _ _ _ _ hstart.of_talk⟩)
  | stopInput window =>
    obtain ⟨⟨r, s⟩, m, hstop, h⟩ := Checked.Leads.of_bind calls
    obtain ⟨heq, rfl⟩ := h.of_pure
    cases heq
    exact .inr (.inr ⟨nofun, nofun, stopInput_sameCursor hstop.of_talk.yields,
      stopInput_elsewhere _ _ _ _ _ hstop.of_talk⟩)
  | clip rect screen =>
    obtain ⟨⟨r, s⟩, m, hclip, h⟩ := Checked.Leads.of_bind calls
    obtain ⟨heq, rfl⟩ := h.of_pure
    cases heq
    exact .inl ⟨rect, screen, rfl, hclip.of_talk⟩
  | warp x y screen =>
    obtain ⟨⟨r, s⟩, m, hwarp, h⟩ := Checked.Leads.of_bind calls
    obtain ⟨heq, rfl⟩ := h.of_pure
    cases heq
    exact .inr (.inl ⟨x, y, screen, rfl, hwarp.of_talk⟩)
  | flush =>
    obtain ⟨s, m, hflush, h⟩ := Checked.Leads.of_bind calls
    obtain ⟨heq, rfl⟩ := h.of_pure
    cases heq
    exact .inr (.inr ⟨nofun, nofun, flushIfPending_sameCursor hflush.of_talk.yields,
      flushIfPending_elsewhere _ _ _ _ hflush.of_talk⟩)
  | fail =>
    obtain ⟨heq, rfl⟩ := Checked.Leads.of_pure calls
    obtain rfl : after = before.fail := congrArg (·.2.2) heq
    exact .inr (.inr ⟨nofun, nofun, ⟨rfl, rfl, rfl⟩, .refl _⟩)

/-! ## Setting up -/

theorem setUp_cursor {display : String} (h : Yields (setUp S display link).run (.ok s)) :
    s.link = link ∧ s.barriers = [] ∧ s.lastWarp = none := by
  unfold setUp at h
  obtain ⟨-, -, h⟩ := Yields.of_bind_ok h
  obtain ⟨pointer, -, h⟩ := Yields.of_bind_ok h
  obtain ⟨device, -, h⟩ := Yields.of_bind_ok h
  obtain ⟨report, -, h⟩ := Yields.of_bind_ok h
  obtain ⟨⟨built, s₁⟩, hbuilt, h⟩ := Yields.of_bind_ok h
  obtain ⟨r, hbuilt, hr⟩ := Yields.of_map (f := Except.ok) hbuilt
  cases hr
  -- the layouts are built into the bare seat, and change nothing else of it
  obtain ⟨layouts, rfl⟩ := rebuildLayouts_yields hbuilt
  obtain ⟨-, -, h⟩ := Yields.of_bind_ok h
  obtain ⟨-, -, h⟩ := Yields.of_bind_ok h
  obtain ⟨-, -, h⟩ := Yields.of_bind_ok h
  cases h.of_pure
  exact ⟨rfl, rfl, rfl⟩

/-- A seat that has just been set up has done nothing about the cursor. -/
theorem connect_cursor {display : String}
    (h : (connect S.recorded display).Leads [] (.ok s) l) :
    (∃ own, Adds (Call.OfKind Elsewhere) [.opened display own] l) ∧
      s.barriers = [] ∧ s.lastWarp = none := by
  unfold connect at h
  obtain ⟨opened, m, hopen, h⟩ := h.of_bind
  rcases hopen.of_connect with ⟨reason, rfl, rfl⟩ | ⟨link, own, rfl, -, rfl⟩
  · obtain ⟨heq, -⟩ := h.of_pure
    cases heq
  obtain ⟨result, m, hset, h⟩ := h.of_bind
  cases result with
  -- a link that could not be set up is closed, and there is no seat
  | error e =>
    obtain ⟨-, m', -, h⟩ := h.of_bind
    obtain ⟨heq, -⟩ := h.of_pure
    cases heq
  | ok seat =>
    obtain ⟨heq, rfl⟩ := h.of_pure
    cases heq
    exact ⟨⟨own, setUp_elsewhere _ _ _ _ _ hset⟩, (setUp_cursor hset.yields).2⟩

end Seat

end InputBridge
