-- SUMMARY: The lock keys of a seat follow from the modifiers and masks, and are told when they change.
import InputBridge.Proofs.Seat.Events

/-!
# Lock keys of a seat

The lock keys follow from the locked modifiers and the masks of a layout: the active one, or
else the first. Desktops are told of them whenever they change, so the last that was told is
what holds.
-/

namespace InputBridge

/-- The lock keys that a delivery tells. -/
def Delivery.locks? : Delivery → Option Locks
  | .locks l => some l
  | .input .. | .language .. => none

/-- The locked modifiers that an event reports. -/
def Event.lockedModifiers? : Event → Option UInt32
  | .keyboardState _ lockedModifiers => some lockedModifiers.toUInt32
  | _ => none

namespace Seat

variable {σ : Type} {S : DisplayServer σ} {s s' s'' : Seat} {event : Event} {screen : Rect}
  {deliveries more : List Delivery} {layout : Layout}

/-- The lock keys that deliveries tell, in order. -/
def locksOfDeliveries (deliveries : List Delivery) : List Locks :=
  deliveries.filterMap Delivery.locks?

theorem locksOfDeliveries_append (deliveries more : List Delivery) :
    locksOfDeliveries (deliveries ++ more) =
      locksOfDeliveries deliveries ++ locksOfDeliveries more :=
  List.filterMap_append

theorem locksOfDeliveries_of_isInput (h : ∀ d ∈ deliveries, d.IsInput) :
    locksOfDeliveries deliveries = [] := by
  refine List.filterMap_eq_nil_iff.mpr fun d hd => ?_
  cases d with
  | input => rfl
  | language | locks => cases h _ hd

/-- The layout whose masks count: the active one, or else the first. -/
def maskLayout (s : Seat) : Option Layout := s.layouts.active <|> s.layouts.all.head?

theorem maskLayout_eq_some : s.maskLayout = some layout ↔ s.layouts.active = some layout ∨
    s.layouts.active = none ∧ s.layouts.all.head? = some layout := by
  rw [maskLayout]
  cases s.layouts.active <;> simp

/-- A seat with layouts has masks that count. -/
theorem exists_maskLayout (h : s.layouts.all ≠ []) : ∃ layout, s.maskLayout = some layout := by
  obtain ⟨first, rest, hall⟩ := List.exists_cons_of_ne_nil h
  cases hactive : s.layouts.active with
  | some layout => exact ⟨layout, maskLayout_eq_some.mpr (.inl hactive)⟩
  | none => exact ⟨first, maskLayout_eq_some.mpr (.inr ⟨hactive, by rw [hall]; rfl⟩)⟩

theorem masks_of_maskLayout (h : s.maskLayout = some layout) : s.layouts.masks = layout.masks := by
  rw [maskLayout] at h
  rw [Layouts.masks, h]
  rfl

/-- The lock keys are those of the layout whose masks count. -/
def LocksCurrent (s : Seat) : Prop :=
  ∀ layout, s.maskLayout = some layout →
    s.keyboard.locks = locksOf layout.masks s.keyboard.lockedModifiers

theorem LocksCurrent.rests (h : s.LocksCurrent) (rests : s.Rests s') : s'.LocksCurrent := by
  intro layout hlayout
  rw [rests.locks, rests.lockedModifiers]
  refine h layout ?_
  rwa [maskLayout, rests.layouts] at hlayout

/-! ## Taking over modifiers -/

/-- From `s` to `s'` the deliveries tell every change of the lock keys, and the locked
modifiers become those that are reported. -/
structure Relocks (s s' : Seat) (reported : Option UInt32) (deliveries : List Delivery) :
    Prop where
  link : s'.link = s.link
  locks : s'.keyboard.locks = (locksOfDeliveries deliveries).getLast?.getD s.keyboard.locks
  lockedModifiers : s'.keyboard.lockedModifiers = reported.getD s.keyboard.lockedModifiers
  current : s.LocksCurrent → s'.LocksCurrent

theorem Rests.relocks (h : s.Rests s') (hnone : locksOfDeliveries deliveries = []) :
    s.Relocks s' none deliveries where
  link := h.link
  locks := by rw [hnone, h.locks]; rfl
  lockedModifiers := h.lockedModifiers
  current hs := hs.rests h

/-- What tells no lock keys and leaves them alone may follow. -/
theorem Relocks.rests {reported : Option UInt32} (h : s.Relocks s' reported deliveries)
    (rests : s'.Rests s'') (hnone : locksOfDeliveries more = []) :
    s.Relocks s'' reported (deliveries ++ more) where
  link := rests.link.trans h.link
  locks := by
    rw [rests.locks, h.locks, locksOfDeliveries_append, hnone, List.append_nil]
  lockedModifiers := rests.lockedModifiers.trans h.lockedModifiers
  current hs := (h.current hs).rests rests

theorem lockModifiers_relocks (lockedModifiers : UInt32) (hlink : s'.link = s.link)
    (hlocks : s'.keyboard.locks = s.keyboard.locks) :
    s.Relocks (s'.lockModifiers lockedModifiers).1 (some lockedModifiers)
      (s'.lockModifiers lockedModifiers).2 where
  link := hlink
  locks := by
    unfold lockModifiers
    dsimp only
    split
    -- locks that stay the same are not told again
    · next hsame => exact hsame.trans hlocks
    · rfl
  lockedModifiers := rfl
  current _ layout hlayout := by
    have hmasks : s'.layouts.masks = layout.masks := masks_of_maskLayout hlayout
    exact congrArg (locksOf · lockedModifiers) hmasks

theorem announceLayout_rests (s : Seat) : s.Rests s.announceLayout.1 := by
  obtain ⟨lastHkl, heq⟩ := s.announceLayout_fst
  rw [heq]
  exact ⟨rfl, rfl, rfl, rfl⟩

theorem locksOfDeliveries_announceLayout (s : Seat) :
    locksOfDeliveries s.announceLayout.2 = [] := by
  unfold announceLayout
  split
  · split <;> rfl
  · rfl

/-! ## Events -/

theorem onFocus_relocks (s : Seat) (gained : Bool) (window : WindowId) (mode detail : UInt8) :
    s.Relocks (s.onFocus gained window mode detail).1 none
      (s.onFocus gained window mode detail).2 := by
  unfold onFocus
  split
  · exact (Rests.refl s).relocks rfl
  split
  · exact Rests.relocks ⟨rfl, rfl, rfl, rfl⟩ rfl
  split
  · exact Rests.relocks ⟨rfl, rfl, rfl, rfl⟩ rfl
  split
  · split <;> exact Rests.relocks ⟨rfl, rfl, rfl, rfl⟩ rfl
  split
  · exact (Rests.refl s).relocks rfl
  · -- a window that gains the focus is told of the locks, which are as before
    have told (s₁ : Seat) (h : s.Rests s₁) : s.Relocks s₁.announceLayout.1 none
        (.locks s₁.announceLayout.1.keyboard.locks :: s₁.announceLayout.2) := by
      have rests := h.trans (announceLayout_rests s₁)
      refine ⟨rests.link, ?_, rests.lockedModifiers, fun hs => hs.rests rests⟩
      -- telling the language besides adds nothing about the locks
      have hone : locksOfDeliveries (.locks s₁.announceLayout.1.keyboard.locks ::
          s₁.announceLayout.2) = [s₁.announceLayout.1.keyboard.locks] := by
        rw [← List.singleton_append, locksOfDeliveries_append, locksOfDeliveries_announceLayout]
        rfl
      rw [hone]
      rfl
    exact told _ ⟨rfl, rfl, rfl, rfl⟩

theorem onKeyboardState_relocks (s : Seat) (group lockedModifiers : UInt32) :
    s.Relocks (s.onKeyboardState group lockedModifiers).1 (some lockedModifiers)
      (s.onKeyboardState group lockedModifiers).2 := by
  -- whatever the group does, it leaves the locks to the modifiers
  have locked : ∀ {r : Seat × List Delivery}, r.1.link = s.link ∧
      r.1.keyboard.locks = s.keyboard.locks ∧ locksOfDeliveries r.2 = [] →
      s.Relocks (r.1.lockModifiers lockedModifiers).1 (some lockedModifiers)
        (r.2 ++ (r.1.lockModifiers lockedModifiers).2) := by
    rintro r ⟨hlink, hlocks, hnone⟩
    have relocks := lockModifiers_relocks lockedModifiers hlink hlocks
    refine ⟨relocks.link, ?_, relocks.lockedModifiers, relocks.current⟩
    rw [locksOfDeliveries_append, hnone, List.nil_append]
    exact relocks.locks
  unfold onKeyboardState
  refine locked (r := ite _ _ _) ?_
  split
  · dsimp only
    split
    · exact ⟨(announceLayout_rests _).link, (announceLayout_rests _).locks,
        locksOfDeliveries_announceLayout _⟩
    · exact ⟨rfl, rfl, rfl⟩
  · exact ⟨rfl, rfl, rfl⟩

/-- New masks are applied to the modifiers that were reported last. -/
theorem refreshLayouts_relocks (h : (s.refreshLayouts S).Yields (s', deliveries)) :
    s.Relocks s' none deliveries := by
  rcases refreshLayouts_yields h with ⟨rfl, rfl⟩ | ⟨layouts, s₁, locks, hlocks, rfl, rfl⟩
  · exact ⟨rfl, rfl, rfl, fun _ layout hlayout => nomatch hlayout⟩
  · have relocks : s.Relocks s₁ none locks := by
      have taken : s.Relocks ({ s with layouts }.lockModifiers s.keyboard.lockedModifiers).1
          (some s.keyboard.lockedModifiers)
          ({ s with layouts }.lockModifiers s.keyboard.lockedModifiers).2 :=
        lockModifiers_relocks _ rfl rfl
      rw [hlocks] at taken
      exact ⟨taken.link, taken.locks, taken.lockedModifiers, taken.current⟩
    exact relocks.rests (announceLayout_rests s₁) (locksOfDeliveries_announceLayout s₁)

theorem onEvent_relocks (h : (s.onEvent S screen event).Yields (s', deliveries)) :
    s.Relocks s' event.lockedModifiers? deliveries := by
  rcases onEvent_yields h with ⟨inputs, same, hother⟩ |
    ⟨gained, window, mode, detail, rfl, heq⟩ | ⟨device, hevent, hrefresh⟩ |
    ⟨group, lockedModifiers, rfl, heq⟩
  · have hnone : event.lockedModifiers? = none := by
      unfold Event.lockedModifiers?
      split
      · next group lockedModifiers => exact absurd rfl (hother group lockedModifiers)
      · rfl
    rw [hnone]
    -- what is input says nothing about the locks
    exact same.rests.relocks (locksOfDeliveries_of_isInput inputs)
  · obtain ⟨rfl, rfl⟩ := Prod.mk.inj heq
    exact onFocus_relocks s gained window mode detail
  · have hnone : event.lockedModifiers? = none := by
      rcases hevent with rfl | rfl <;> rfl
    obtain ⟨hlink, hlocks, hmodifiers, current⟩ := refreshLayouts_relocks hrefresh
    rw [hnone]
    -- the device may be another one, which the locks do not depend on
    exact ⟨hlink, hlocks, hmodifiers, fun hs => current (hs.rests ⟨rfl, rfl, rfl, rfl⟩)⟩
  · obtain ⟨rfl, rfl⟩ := Prod.mk.inj heq
    exact onKeyboardState_relocks s group.toUInt32 lockedModifiers.toUInt32

/-- A seat that works takes over what an event reports, and a failed one nothing. -/
theorem dispatch_relocks (h : (s.dispatch S screen event).Yields (s', deliveries)) :
    s.Relocks s' (if s.failed then none else event.lockedModifiers?) deliveries := by
  rcases dispatch_yields h with ⟨hfailed, rfl, rfl⟩ | ⟨hlive, s₁, hevent, flushed⟩
  · rw [if_pos hfailed]
    exact Rests.relocks (.refl _) rfl
  · rw [if_neg (by simp [hlive]), ← List.append_nil deliveries]
    exact (onEvent_relocks hevent).rests flushed.rests rfl

/-! ## Modifiers that were reported -/

/-- The locked modifiers are the last of the reports, or else those that the display server
reported when the seat was set up. The lock keys follow from them. -/
structure Tracks (S : DisplayServer σ) (s : Seat) (reports : List UInt32) : Prop where
  current : s.LocksCurrent
  reported : ∃ device report, (S.ask s.link (.keyboardReport device)).Yields (.ok report) ∧
    s.keyboard.lockedModifiers = reports.getLast?.getD report.lockedModifiers

theorem connect_tracks {display : String} (h : (connect S display).Yields (.ok s)) :
    s.Tracks S [] := by
  obtain ⟨device, report, hreport, hkeyboard⟩ := connect_keyboard h
  refine ⟨fun layout hlayout => ?_, device, report, hreport, by rw [hkeyboard]; rfl⟩
  rw [hkeyboard, ← masks_of_maskLayout hlayout]

theorem Tracks.rests {reports : List UInt32} (h : s.Tracks S reports) (rests : s.Rests s') :
    s'.Tracks S reports := by
  obtain ⟨device, report, hreport, hlast⟩ := h.reported
  exact ⟨h.current.rests rests, device, report, rests.link ▸ hreport,
    rests.lockedModifiers.trans hlast⟩

theorem Tracks.relocks {reports : List UInt32} {reported : Option UInt32}
    (h : s.Tracks S reports) (relocks : s.Relocks s' reported deliveries) :
    s'.Tracks S (reports ++ reported.toList) := by
  obtain ⟨device, report, hreport, hlast⟩ := h.reported
  refine ⟨relocks.current h.current, device, report, relocks.link ▸ hreport, ?_⟩
  rw [relocks.lockedModifiers, hlast]
  cases reported with
  | none => simp
  | some lockedModifiers => simp

end Seat

end InputBridge
