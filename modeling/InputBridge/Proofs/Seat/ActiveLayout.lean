-- SUMMARY: The active layout is that of the last group reported, along all runs of a seat.
import InputBridge.Proofs.Seat.Language
import Mathlib.Data.List.Nodup

/-!
# The active layout

The tables of the active layout make keys of scan codes. If the keyboard is in a group for which
there is a layout, this layout is the active one, whatever became of the keymap and whichever
groups were reported in between. So a report of the group that the keyboard is in already has
nothing to change while a layout is active.
-/

namespace InputBridge

/-- The group that an event reports. -/
def Event.group? : Event → Option UInt32
  | .keyboardState group _ => some group.toUInt32
  | _ => none

/-- The event is a key. -/
def Event.IsKey : Event → Prop
  | .key .. | .rawKey .. => True
  | _ => False

namespace Layouts

variable {layouts : Layouts} {layout : Layout} {group : UInt32}

/-- No two layouts are for one group, and the active one is among them. -/
structure Valid (layouts : Layouts) : Prop where
  groups : (layouts.all.map (·.group)).Nodup
  index : ∀ i, layouts.activeIndex = some i → i < layouts.all.length

/-- If there is a layout for the group, it is the active one. -/
structure Follows (layouts : Layouts) (group : UInt32) : Prop extends Valid layouts where
  active : ∀ layout ∈ layouts.all, layout.group = group → layouts.active = some layout

/-- The set whose only layout is active. -/
def only (layout : Layout) : Layouts := { all := [layout], activeIndex := some 0 }

theorem valid_empty : empty.Valid := ⟨.nil, nofun⟩

theorem Valid.follows (valid : layouts.Valid) (h : ∀ layout ∈ layouts.all, layout.group ≠ group) :
    layouts.Follows group :=
  ⟨valid, fun layout hlayout hgroup => absurd hgroup (h layout hlayout)⟩

theorem activate_cases (layouts : Layouts) (group : UInt32) :
    (∃ i layout, layouts.all[i]? = some layout ∧ layout.group = group ∧
        layouts.activate group = (some layout, { layouts with activeIndex := some i })) ∨
      (∀ layout ∈ layouts.all, layout.group ≠ group) ∧
        layouts.activate group = (none, layouts) := by
  unfold activate
  split
  · next i hfind =>
    obtain ⟨hi, hgroup, -⟩ := List.findIdx?_eq_some_iff_getElem.mp hfind
    -- the first layout of the group is the one that becomes active
    have hlayout : layouts.all[i]? = some layouts.all[i] := List.getElem?_eq_getElem hi
    exact .inl ⟨i, layouts.all[i], hlayout, eq_of_beq hgroup, by rw [hlayout]⟩
  · next hfind =>
    refine .inr ⟨fun layout hlayout hgroup => ?_, rfl⟩
    have hother := List.findIdx?_eq_none_iff.mp hfind layout hlayout
    simp [hgroup] at hother

/-- The layout that is made active is the only one for its group. -/
theorem Valid.activate (valid : layouts.Valid) (group : UInt32) :
    (layouts.activate group).2.Follows group := by
  rcases activate_cases layouts group with ⟨i, layout, hlayout, hgroup, heq⟩ | ⟨hother, heq⟩
  · rw [heq]
    refine ⟨⟨valid.groups, ?_⟩, fun layout' hlayout' hgroup' => ?_⟩
    · rintro _ ⟨⟩
      exact (List.getElem?_eq_some_iff.mp hlayout).1
    · have hmem : layout ∈ layouts.all := List.mem_of_getElem? hlayout
      rw [List.inj_on_of_nodup_map valid.groups hlayout' hmem (hgroup'.trans hgroup.symm)]
      exact hlayout
  · rw [heq]
    exact valid.follows hother

theorem nodup_groups (count : UInt32) :
    ((List.range count.toNat).map UInt32.ofNat).Nodup := by
  refine List.nodup_range.map_on fun m hm n hn heq => ?_
  have hcount := count.toNat_lt
  rw [List.mem_range] at hm hn
  have hmod : m % 2 ^ 32 = n % 2 ^ 32 := by
    rw [← UInt32.toNat_ofNat', ← UInt32.toNat_ofNat', heq]
  omega

theorem valid_rebuild (keymap : Keymap) (rules : Rules) (first : UInt16) :
    (rebuild keymap rules first).2.1.Valid := by
  have hinactive := activeIndex_rebuild keymap rules first
  generalize hrebuild : rebuild keymap rules first = rebuilt at hinactive ⊢
  obtain ⟨result, layouts, next⟩ := rebuilt
  cases result with
  | error e =>
    rw [rebuild_eq_error hrebuild]
    exact valid_empty
  | ok =>
    refine ⟨?_, fun i hi => ?_⟩
    -- there is one layout for each group, and none is active yet
    · rw [map_group_of_rebuild hrebuild]
      exact nodup_groups keymap.groups
    · rw [hinactive] at hi
      cases hi

end Layouts

namespace Seat

variable {σ : Type} {S : DisplayServer σ} {s s' s'' start : Seat} {event : Event} {screen : Rect}
  {deliveries : List Delivery} {steps : List Step} {t : Step} {display : String}

/-! ## Following the group -/

/-- If there is a layout for the group that the keyboard is in, it is the active one. -/
def FollowsGroup (s : Seat) : Prop := s.layouts.Follows s.keyboard.group

/-- The group becomes the one that is reported, and its layout stays active, or becomes so. -/
structure Regroups (s s' : Seat) (reported : Option UInt32) : Prop where
  group : s'.keyboard.group = reported.getD s.keyboard.group
  follows : s.FollowsGroup → s'.FollowsGroup

/-- Group and layouts are as they were. -/
structure SameGroup (s s' : Seat) : Prop where
  group : s'.keyboard.group = s.keyboard.group
  layouts : s'.layouts = s.layouts

theorem SameGroup.trans (h : s.SameGroup s') (h' : s'.SameGroup s'') : s.SameGroup s'' :=
  ⟨h'.group.trans h.group, h'.layouts.trans h.layouts⟩

theorem Undisturbed.sameGroup (h : s.Undisturbed s') : s.SameGroup s' :=
  ⟨by rw [h.keyboard], h.layouts⟩

theorem FollowsGroup.congr (h : s.FollowsGroup) (same : s.SameGroup s') : s'.FollowsGroup := by
  rw [FollowsGroup, same.group, same.layouts]
  exact h

theorem SameGroup.regroups (same : s.SameGroup s') : s.Regroups s' none :=
  ⟨same.group, fun h => h.congr same⟩

theorem Regroups.congr {reported : Option UInt32} (h : s.Regroups s' reported)
    (same : s'.SameGroup s'') : s.Regroups s'' reported :=
  ⟨same.group.trans h.group, fun hs => (h.follows hs).congr same⟩

/-! ## Events -/

theorem announceLayout_sameGroup (s : Seat) : s.SameGroup s.announceLayout.1 := by
  obtain ⟨lastHkl, heq⟩ := s.announceLayout_fst
  rw [heq]
  exact ⟨rfl, rfl⟩

theorem lockModifiers_sameGroup (s : Seat) (lockedModifiers : UInt32) :
    s.SameGroup (s.lockModifiers lockedModifiers).1 := ⟨rfl, rfl⟩

theorem onFocus_sameGroup (s : Seat) (gained : Bool) (window : WindowId) (mode detail : UInt8) :
    s.SameGroup (s.onFocus gained window mode detail).1 := by
  obtain ⟨grabbed, focus, lastHkl, heq⟩ := s.onFocus_fst gained window mode detail
  rw [heq]
  exact ⟨rfl, rfl⟩

/-- A group that is reported again needs no layout to be made active: this is done already, or
there is none. -/
theorem onKeyboardState_regroups (s : Seat) (group lockedModifiers : UInt32) :
    s.Regroups (s.onKeyboardState group lockedModifiers).1 (some group) := by
  -- the locks are taken over at the end, which is of no concern
  have locked : ∀ {r : Seat × List Delivery}, s.Regroups r.1 (some group) →
      s.Regroups (r.1.lockModifiers lockedModifiers).1 (some group) :=
    fun h => h.congr (lockModifiers_sameGroup _ _)
  unfold onKeyboardState
  refine locked (r := ite _ _ _) ?_
  split
  · dsimp only
    rcases s.layouts.activate_cases group with ⟨i, layout, -, -, heq⟩ | ⟨hother, heq⟩
    · rw [heq]
      have activated (hs : s.FollowsGroup) := hs.toValid.activate group
      rw [heq] at activated
      -- the language may be told after that, which leaves the group alone
      have regroups : s.Regroups { s with
          keyboard.group := group, layouts := { s.layouts with activeIndex := some i } }
          (some group) := ⟨rfl, activated⟩
      exact regroups.congr (announceLayout_sameGroup _)
    · rw [heq]
      exact ⟨rfl, fun hs => hs.toValid.follows hother⟩
  · next hsame =>
    simp only [not_or, Decidable.not_not] at hsame
    exact ⟨hsame.1.symm, id⟩

/-- Layouts that are built anew follow the group, also if there are none. -/
theorem rebuildLayouts_follows {r : Except SeatError Unit}
    (h : (s.rebuildLayouts S).Yields (r, s')) : s'.layouts.Follows s.keyboard.group := by
  unfold rebuildLayouts at h
  obtain ⟨rules, -, h⟩ := h.of_bind
  obtain ⟨keymap, -, h⟩ := h.of_bind
  cases keymap with
  | error refusal =>
    cases h.of_pure
    exact Layouts.valid_empty.follows nofun
  -- whether all layouts could be built or not, the group is made active among those
  -- there are
  | ok keymap =>
    obtain ⟨w, -, h⟩ := h.of_bind
    obtain ⟨-, -, h⟩ := h.of_bind
    cases h.of_pure
    exact (Layouts.valid_rebuild _ _ _).activate _

theorem refreshLayouts_regroups (h : (s.refreshLayouts S).Yields (s', deliveries)) :
    s.Regroups s' none := by
  unfold refreshLayouts at h
  obtain ⟨⟨r, s₁⟩, hbuilt, h⟩ := h.of_bind
  have follows := rebuildLayouts_follows hbuilt
  obtain ⟨layouts, rfl⟩ := rebuildLayouts_yields hbuilt
  have rebuilt : s.Regroups { s with layouts } none := ⟨rfl, fun _ => follows⟩
  cases r with
  | error e =>
    cases h.of_pure
    exact rebuilt
  | ok _ =>
    cases h.of_pure
    exact rebuilt.congr ((lockModifiers_sameGroup _ _).trans (announceLayout_sameGroup _))

theorem onEvent_regroups (h : (s.onEvent S screen event).Yields (s', deliveries)) :
    s.Regroups s' event.group? := by
  rcases onEvent_yields h with ⟨-, same, hother⟩ | ⟨gained, window, mode, detail, rfl, heq⟩ |
    ⟨device, hevent, hrefresh⟩ | ⟨group, lockedModifiers, rfl, heq⟩
  · have hnone : event.group? = none := by
      cases event with
      | keyboardState group lockedModifiers => exact absurd rfl (hother group lockedModifiers)
      | _ => rfl
    -- of all events only a report of the keyboard's state carries a group
    rw [hnone]
    exact same.sameGroup.regroups
  · obtain ⟨rfl, -⟩ := Prod.mk.inj heq
    exact (onFocus_sameGroup s gained window mode detail).regroups
  · have hnone : event.group? = none := by rcases hevent with rfl | rfl <;> rfl
    rw [hnone]
    obtain ⟨hgroup, follows⟩ := refreshLayouts_regroups hrefresh
    exact ⟨hgroup, follows⟩
  · obtain ⟨rfl, -⟩ := Prod.mk.inj heq
    exact onKeyboardState_regroups s group.toUInt32 lockedModifiers.toUInt32

/-! ## Runs -/

/-- The group that an event reports in this step. -/
def Operation.group? : Operation → Option UInt32
  | .event _ e => e.group?
  | _ => none

/-- The groups that were reported while the seat worked, in order. A seat that has failed is
through with its display server. -/
def groupsReported (steps : List Step) : List UInt32 :=
  steps.filterMap fun t => if t.before.failed then none else t.operation.group?

theorem Step.Possible.regroups (possible : t.Possible S) :
    t.before.Regroups t.after (if t.before.failed then none else t.operation.group?) := by
  rcases possible.cases with ⟨screen, e, hop, hdispatch⟩ | ⟨hother, -, hrequest⟩
  · rw [hop]
    rcases dispatch_yields hdispatch with ⟨hfailed, heq, -⟩ | ⟨hlive, s₁, hevent, flushed⟩
    -- a failed seat does not hear of the group that its event reports
    · rw [if_pos hfailed, heq]
      exact SameGroup.regroups ⟨rfl, rfl⟩
    · rw [if_neg (by simp [hlive])]
      exact (onEvent_regroups hevent).congr flushed.sameGroup
  · -- requests leave group and layouts alone
    have hnone : t.operation.group? = none := by
      cases hop : t.operation with
      | event screen e => exact absurd hop (hother screen e)
      | _ => rfl
    rw [hnone, ite_self]
    apply SameGroup.regroups
    rcases hrequest with ⟨window, handle, -, hstart⟩ | ⟨window, r, hstop⟩ | same
    · obtain ⟨hkeyboard, hlayouts⟩ := startInput_keyboard hstart
      exact ⟨by rw [hkeyboard], hlayouts⟩
    · obtain ⟨hlayouts, ⟨-, heq⟩ | hkeyboard⟩ := stopInput_keyboard hstop
      · exact ⟨by rw [heq], hlayouts⟩
      · exact ⟨by rw [hkeyboard], hlayouts⟩
    · exact same.sameGroup

theorem connect_followsGroup (h : (connect S display).Yields (.ok s)) : s.FollowsGroup := by
  obtain ⟨device, report, bare, built, -, -, hbuilt, rfl⟩ := connect_rebuilds h
  have follows := rebuildLayouts_follows hbuilt
  obtain ⟨layouts, rfl⟩ := rebuildLayouts_yields hbuilt
  exact follows

/-- The keyboard is in the group that was reported last, and its layout is active. -/
theorem Run.followsGroup (run : Run S start steps s) (h : start.FollowsGroup) :
    s.FollowsGroup ∧
      s.keyboard.group = (groupsReported steps).getLast?.getD start.keyboard.group := by
  induction run with
  | nil => exact ⟨h, rfl⟩
  | @snoc steps t _ possible ih =>
    obtain ⟨follows, hgroup⟩ := ih
    have regroups := possible.regroups
    refine ⟨regroups.follows follows, ?_⟩
    rw [regroups.group, hgroup, groupsReported, groupsReported, List.filterMap_append]
    cases hreported : (if t.before.failed then none else t.operation.group?) with
    | none => simp [hreported]
    | some group => simp [hreported]

/-- A seat that works has had all groups reported to it. -/
theorem Run.groupsReported_eq (run : Run S start steps s) (hlive : s.failed = false) :
    groupsReported steps = steps.filterMap (·.operation.group?) := by
  induction run with
  | nil => rfl
  | @snoc steps t _ possible ih =>
    have hbefore : t.before.failed = false :=
      Bool.eq_false_iff.mpr fun hfailed => by
        rw [possible.continues.failed hfailed] at hlive
        cases hlive
    rw [groupsReported] at ih ⊢
    rw [List.filterMap_append, List.filterMap_append, ih hbefore]
    simp [List.filterMap_cons, hbefore]

/-! ## Keys -/

theorem keyInputs_congr_of_active {layouts : Layouts} (h : layouts.active = s.layouts.active) :
    { s with layouts }.keyInputs = s.keyInputs := by
  have hscan : { s with layouts }.scanInput? = s.scanInput? := by
    funext scan press time
    rw [scanInput?, scanInput?, virtualKey, virtualKey, h]
  funext keycode press time
  rw [keyInputs, keyInputs, hscan]

/-- Of the layouts only the active one is used for keys. -/
theorem delivered_congr_of_active (hkey : event.IsKey) {layouts : Layouts}
    (h : layouts.active = s.layouts.active) (w : World σ) :
    ∃ deliveries, s.delivered S screen event w = .ok deliveries ∧
      { s with layouts }.delivered S screen event w = .ok deliveries := by
  have hinputs := keyInputs_congr_of_active h
  -- a failed seat delivers nothing, with whatever layouts
  by_cases hfailed : s.failed = true
  · exact ⟨[], delivered_of_failed hfailed w,
      delivered_of_failed (s := { s with layouts }) hfailed w⟩
  have hlive : s.failed = false := by simpa using hfailed
  rw [delivered_of_live hlive, delivered_of_live (s := { s with layouts }) hlive]
  cases event with
  | key press time window keycode =>
    refine ⟨s.onKey press time window keycode, rfl, ?_⟩
    rw [onKey, ← hinputs]
    rfl
  | rawKey press time keycode =>
    refine ⟨s.onRawKey press time keycode, rfl, ?_⟩
    rw [onRawKey, ← hinputs]
    rfl
  | _ => cases hkey

/-- The active layout is always one of the set. If there is a layout for the group that was
reported last, by an event or else when the seat was set up, it is the active one, and keys are
what they would be if there were no other layout. -/
theorem Run.active_of_reported (opened : (connect S display).Yields (.ok start))
    (run : Run S start steps s) :
    ∃ device report, (S.ask start.link (.keyboardReport device)).Yields (.ok report) ∧
      (s.failed = false → groupsReported steps = steps.filterMap (·.operation.group?)) ∧
      (∀ i, s.layouts.activeIndex = some i → i < s.layouts.all.length) ∧
      ∀ layout ∈ s.layouts.all,
        layout.group = (groupsReported steps).getLast?.getD report.group →
          s.layouts.active = some layout ∧
          ∀ screen e w, e.IsKey → ∃ deliveries,
            s.delivered S screen e w = .ok deliveries ∧
              { s with layouts := .only layout }.delivered S screen e w = .ok deliveries := by
  obtain ⟨device, report, hreport, hkeyboard⟩ := connect_keyboard opened
  obtain ⟨follows, hgroup⟩ := run.followsGroup (connect_followsGroup opened)
  rw [hkeyboard] at hgroup
  refine ⟨device, report, hreport, run.groupsReported_eq, follows.index, ?_⟩
  intro layout hlayout hlast
  have hactive := follows.active layout hlayout (hlast.trans hgroup.symm)
  have honly : (Layouts.only layout).active = s.layouts.active := hactive.symm
  exact ⟨hactive, fun screen e w hkey => delivered_congr_of_active hkey honly w⟩

/-- The keyboard goes to a group without a layout, in which its keymap changes, and then to the
second group. -/
def groupDetour : List (Operation × World Unit) :=
  [(.event ⟨0, 0, 800, 600⟩ (.keyboardState 7 0), ⟨(), 2⟩),
    (.event ⟨0, 0, 800, 600⟩ .keymapChanged, ⟨(), 2⟩),
    (.event ⟨0, 0, 800, 600⟩ (.keyboardState 1 0), ⟨(), 2⟩)]

/-- In the end the layout of the second group is active. -/
theorem groupDetour_active :
    let steps := twoGroupSeat.play twoGroupServer groupDetour
    let s := twoGroupSeat.finish steps
    groupsReported steps = [7, 1] ∧ ∃ layout ∈ s.layouts.all, layout.group = 1 ∧
      s.layouts.active = some layout ∧
      ∀ screen press time keycode w, ∃ deliveries,
        s.delivered twoGroupServer screen (.rawKey press time keycode) w = .ok deliveries ∧
          { s with layouts := .only layout }.delivered twoGroupServer screen
            (.rawKey press time keycode) w = .ok deliveries := by
  have run := run_play twoGroupServer twoGroupSeat groupDetour
  obtain ⟨hreported, hgroups⟩ :
      groupsReported (twoGroupSeat.play twoGroupServer groupDetour) = [7, 1] ∧
        (twoGroupSeat.finish (twoGroupSeat.play twoGroupServer groupDetour)).layouts.all.map
          (·.group) = [0, 1] := by decide +kernel
  obtain ⟨layout, hlayout, hgroup⟩ : ∃ layout ∈ (twoGroupSeat.finish
      (twoGroupSeat.play twoGroupServer groupDetour)).layouts.all, layout.group = 1 :=
    List.mem_map.mp (hgroups ▸ by simp)
  obtain ⟨device, report, -, -, -, current⟩ := Run.active_of_reported connect_twoGroupServer run
  obtain ⟨hactive, keys⟩ := current layout hlayout (by rw [hreported, hgroup]; rfl)
  exact ⟨hreported, layout, hlayout, hgroup, hactive, fun screen press time keycode w =>
    keys screen (.rawKey press time keycode) w trivial⟩

end Seat

end InputBridge
