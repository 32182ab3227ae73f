-- SUMMARY: The last layout that a desktop was told of is the one in force.
import InputBridge.Proofs.Seat.Events
import InputBridge.Proofs.Seat.Run
import Mathlib.Data.List.Chain

/-!
# Telling of the language

A desktop is told of the layout that is active when its window gains the focus, and when
another layout becomes active while it has the focus. It is told only of changes, and the
last one that was told is the one in force: unless the display server refuses a window that
is registered already, which the seat forgets while it still has the focus.
-/

namespace InputBridge

/-- The handle and the layout of a language change. -/
def Delivery.change? : Delivery → Option (Handle × UInt32)
  | .language handle hkl => some (handle, hkl)
  | .input .. | .locks _ => none

namespace Seat

variable {σ : Type} {S : DisplayServer σ} {s s' s'' start : Seat} {event : Event} {screen : Rect}
  {deliveries more : List Delivery} {window : WindowId} {handle : Handle} {steps : List Step}
  {t : Step} {display : String}

/-- The language changes among deliveries, in order. -/
def changes (deliveries : List Delivery) : List (Handle × UInt32) :=
  deliveries.filterMap Delivery.change?

theorem changes_append (deliveries more : List Delivery) :
    changes (deliveries ++ more) = changes deliveries ++ changes more :=
  List.filterMap_append

theorem changes_eq_nil_of_isInput (h : ∀ d ∈ deliveries, d.IsInput) : changes deliveries = [] := by
  refine List.filterMap_eq_nil_iff.mpr fun d hd => ?_
  cases d with
  | input => rfl
  | language | locks => cases h _ hd

theorem changes_lockModifiers (s : Seat) (lockedModifiers : UInt32) :
    changes (s.lockModifiers lockedModifiers).2 = [] := by
  unfold lockModifiers
  dsimp only
  split <;> rfl

/-! ## Focus and layouts -/

/-- All that language changes depend on is as it was. -/
structure SameFocus (s s' : Seat) : Prop where
  windows : s'.windows = s.windows
  focus : s'.keyboard.focus = s.keyboard.focus
  lastHkl : s'.keyboard.lastHkl = s.keyboard.lastHkl
  layouts : s'.layouts = s.layouts

theorem Undisturbed.sameFocus (h : s.Undisturbed s') : s.SameFocus s' :=
  ⟨h.windows, by rw [h.keyboard], by rw [h.keyboard], h.layouts⟩

/-- The focused window is registered. -/
def FocusRegistered (s : Seat) : Prop :=
  ∀ window, s.keyboard.focus = some window → s.windows.lookup? window ≠ none

/-- The focused window is registered and was told of the active layout. -/
structure Informed (s : Seat) : Prop where
  registered : s.FocusRegistered
  told : ∀ layout, s.keyboard.focus ≠ none → s.layouts.active = some layout →
    s.keyboard.lastHkl = some layout.hkl

theorem FocusRegistered.congr (h : s.FocusRegistered) (same : s.SameFocus s') :
    s'.FocusRegistered := by
  intro window hwindow
  rw [same.windows]
  exact h window (same.focus ▸ hwindow)

theorem Informed.congr (h : s.Informed) (same : s.SameFocus s') : s'.Informed where
  registered := h.registered.congr same
  told layout hfocus hactive := by
    rw [same.lastHkl]
    exact h.told layout (same.focus ▸ hfocus) (same.layouts ▸ hactive)

theorem Informed.of_active_eq_none (h : s.FocusRegistered) (hnone : s.layouts.active = none) :
    s.Informed where
  registered := h
  told layout _ hactive := by
    rw [hnone] at hactive
    cases hactive

theorem Informed.of_focus_eq_none (hnone : s.keyboard.focus = none) : s.Informed where
  registered window hwindow := by
    rw [hnone] at hwindow
    cases hwindow
  told layout hfocus _ := absurd hnone hfocus

/-! ## Announcing -/

/-- The deliveries bring at most one language change. It goes to the focused window, and is
to the active layout, which is not the one of last time. Who was informed stays so. -/
structure Announces (s s' : Seat) (deliveries : List Delivery) : Prop where
  changes : changes deliveries = [] ∧ s'.keyboard.lastHkl = s.keyboard.lastHkl ∨
    ∃ window handle layout, changes deliveries = [(handle, layout.hkl)] ∧
      s'.keyboard.focus = some window ∧ s'.windows.lookup? window = some handle ∧
      s'.layouts.active = some layout ∧ s.keyboard.lastHkl ≠ some layout.hkl ∧
      s'.keyboard.lastHkl = some layout.hkl
  informed : s.Informed → s'.Informed

theorem Announces.of_changes_eq_nil (hchanges : Seat.changes deliveries = [])
    (same : s.SameFocus s') : s.Announces s' deliveries :=
  ⟨.inl ⟨hchanges, same.lastHkl⟩, fun h => h.congr same⟩

/-- Deliveries of another kind and changes of no concern make no difference. -/
theorem Announces.congr (h : s.Announces s' deliveries) (same : s'.SameFocus s'')
    (hchanges : Seat.changes more = Seat.changes deliveries) : s.Announces s'' more where
  changes := by
    rw [hchanges, same.focus, same.windows, same.layouts, same.lastHkl]
    exact h.changes
  informed hs := (h.informed hs).congr same

/-- After an announcement the focused window knows the active layout. -/
theorem announceLayout_informed (h : s.FocusRegistered) : s.announceLayout.1.Informed := by
  unfold announceLayout
  split
  · next layout handle hlayout hhandle =>
    -- there is one active layout, so it is the one that was announced
    have active : ∀ layout', s.layouts.active = some layout' → layout = layout' :=
      fun layout' hlayout' => Option.some.inj (hlayout.symm.trans hlayout')
    split
    · next hsame =>
      exact ⟨h, fun layout' _ hlayout' => active layout' hlayout' ▸ hsame⟩
    · exact ⟨h, fun layout' _ hlayout' => congrArg _ (congrArg _ (active layout' hlayout'))⟩
  · next hnot =>
    refine ⟨h, fun layout hfocus hactive => ?_⟩
    -- a focused window is registered, so there would have been a handle
    obtain ⟨window, hwindow⟩ := Option.ne_none_iff_exists'.mp hfocus
    obtain ⟨handle, hhandle⟩ := Option.ne_none_iff_exists'.mp (h window hwindow)
    refine absurd ?_ (hnot layout handle hactive)
    rw [hwindow]
    exact hhandle

/-- An announcement follows changes that leave the last language alone. -/
theorem announceLayout_announces (hlast : s'.keyboard.lastHkl = s.keyboard.lastHkl)
    (registered : s.Informed → s'.FocusRegistered) :
    s.Announces s'.announceLayout.1 s'.announceLayout.2 := by
  refine ⟨?_, fun h => announceLayout_informed (registered h)⟩
  unfold announceLayout
  split
  · next layout handle hlayout hhandle =>
    split
    · exact .inl ⟨rfl, hlast⟩
    · next hnews =>
      obtain ⟨window, hwindow, hhandle⟩ := Option.bind_eq_some_iff.mp hhandle
      exact .inr ⟨window, handle, layout, rfl, hwindow, hhandle, hlayout, hlast ▸ hnews, rfl⟩
  · exact .inl ⟨rfl, hlast⟩

/-! ## Events -/

theorem lockModifiers_sameFocus (s : Seat) (lockedModifiers : UInt32) :
    s.SameFocus (s.lockModifiers lockedModifiers).1 := ⟨rfl, rfl, rfl, rfl⟩

theorem onFocus_announces (s : Seat) (gained : Bool) (window : WindowId) (mode detail : UInt8) :
    s.Announces (s.onFocus gained window mode detail).1
      (s.onFocus gained window mode detail).2 := by
  unfold onFocus
  split
  · exact .of_changes_eq_nil rfl ⟨rfl, rfl, rfl, rfl⟩
  split
  · exact .of_changes_eq_nil rfl ⟨rfl, rfl, rfl, rfl⟩
  split
  · exact .of_changes_eq_nil rfl ⟨rfl, rfl, rfl, rfl⟩
  split
  · -- the focus is lost
    split
    · exact ⟨.inl ⟨rfl, rfl⟩, fun _ => .of_focus_eq_none rfl⟩
    · exact .of_changes_eq_nil rfl ⟨rfl, rfl, rfl, rfl⟩
  split
  · exact .of_changes_eq_nil rfl ⟨rfl, rfl, rfl, rfl⟩
  · next handle hhandle =>
    -- the focus is gained by a window that is registered
    have registered : ({ s with keyboard.focus := some window } : Seat).FocusRegistered := by
      rintro _ ⟨⟩
      simp [hhandle]
    have told (s₁ : Seat) (hlast : s₁.keyboard.lastHkl = s.keyboard.lastHkl)
        (h : s₁.FocusRegistered) : s.Announces s₁.announceLayout.1
          (.locks s₁.announceLayout.1.keyboard.locks :: s₁.announceLayout.2) :=
      (announceLayout_announces hlast fun _ => h).congr ⟨rfl, rfl, rfl, rfl⟩ rfl
    exact told _ rfl registered

theorem onKeyboardState_announces (s : Seat) (group lockedModifiers : UInt32) :
    s.Announces (s.onKeyboardState group lockedModifiers).1
      (s.onKeyboardState group lockedModifiers).2 := by
  -- the locks are taken over at the end, which is of no concern
  have locked : ∀ {r : Seat × List Delivery}, s.Announces r.1 r.2 →
      s.Announces (r.1.lockModifiers lockedModifiers).1
        (r.2 ++ (r.1.lockModifiers lockedModifiers).2) := by
    intro r h
    refine h.congr (lockModifiers_sameFocus r.1 lockedModifiers) ?_
    rw [changes_append, changes_lockModifiers, List.append_nil]
  unfold onKeyboardState
  refine locked (r := ite _ _ _) ?_
  split
  · dsimp only
    split
    · exact announceLayout_announces rfl fun h => h.registered
    · exact .of_changes_eq_nil rfl ⟨rfl, rfl, rfl, rfl⟩
  · exact .of_changes_eq_nil rfl ⟨rfl, rfl, rfl, rfl⟩

theorem refreshLayouts_announces (h : (s.refreshLayouts S).Yields (s', deliveries)) :
    s.Announces s' deliveries := by
  rcases refreshLayouts_yields h with ⟨rfl, rfl⟩ | ⟨layouts, s₁, locks, hlocks, rfl, rfl⟩
  · exact ⟨.inl ⟨rfl, rfl⟩, fun hs => .of_active_eq_none hs.registered rfl⟩
  · have told : s.Announces s₁.announceLayout.1 s₁.announceLayout.2 := by
      cases hlocks
      exact announceLayout_announces rfl fun hs => hs.registered
    refine told.congr ⟨rfl, rfl, rfl, rfl⟩ ?_
    have quiet : changes locks = [] := by
      have hnil := changes_lockModifiers { s with layouts } s.keyboard.lockedModifiers
      rwa [hlocks] at hnil
    rw [changes_append, quiet, List.nil_append]

theorem dispatch_announces (h : (s.dispatch S screen event).Yields (s', deliveries)) :
    s.Announces s' deliveries := by
  rcases dispatch_yields h with ⟨-, rfl, rfl⟩ | ⟨-, s₁, hevent, flushed⟩
  · exact .of_changes_eq_nil rfl ⟨rfl, rfl, rfl, rfl⟩
  · refine Announces.congr ?_ flushed.sameFocus rfl
    rcases onEvent_yields hevent with ⟨inputs, same, -⟩ | ⟨gained, window, mode, detail, -, heq⟩ |
      ⟨device, -, hrefresh⟩ | ⟨group, lockedModifiers, -, heq⟩
    · exact .of_changes_eq_nil (changes_eq_nil_of_isInput inputs) same.sameFocus
    · obtain ⟨rfl, rfl⟩ := Prod.mk.inj heq
      exact onFocus_announces s gained window mode detail
    · obtain ⟨hchanges, informed⟩ := refreshLayouts_announces hrefresh
      exact ⟨hchanges, fun hs => informed (hs.congr ⟨rfl, rfl, rfl, rfl⟩)⟩
    · obtain ⟨rfl, rfl⟩ := Prod.mk.inj heq
      exact onKeyboardState_announces s group.toUInt32 lockedModifiers.toUInt32

/-! ## Requests -/

theorem Informed.of_windows (h : s.Informed) (hkeyboard : s'.keyboard = s.keyboard)
    (hlayouts : s'.layouts = s.layouts)
    (hwindows : ∀ window, s.windows.lookup? window ≠ none → s'.windows.lookup? window ≠ none) :
    s'.Informed where
  registered window hwindow :=
    hwindows window (h.registered window (hkeyboard ▸ hwindow))
  told layout hfocus hactive := by
    rw [hkeyboard] at hfocus ⊢
    exact h.told layout hfocus (hlayouts ▸ hactive)

/-- Registering a window takes no window away, unless the window was registered already and
is refused. -/
theorem Informed.startInput {r : Except SeatError Unit} (h : s.Informed)
    (distinct : s.windows.Distinct) (hstart : (s.startInput S window handle).Yields (r, s'))
    (hnew : ∀ refusal, r = .error (.refused refusal) → s.windows.lookup? window = none) :
    s'.Informed := by
  obtain ⟨hkeyboard, hlayouts⟩ := startInput_keyboard hstart
  -- the focus stays where it is, so its window has to stay registered
  refine h.of_windows hkeyboard hlayouts fun other hother => ?_
  rcases startInput_yields hstart with
    ⟨e, -, rfl⟩ | ⟨-, windows, hinsert, ⟨-, rfl⟩ | ⟨refusal, hr, rfl⟩⟩
  · exact hother
  · dsimp only
    rw [WindowTable.lookup?_insert? hinsert]
    split
    · simp
    · exact hother
  · dsimp only
    rw [WindowTable.lookup?_remove (distinct.insert? hinsert),
      WindowTable.lookup?_insert? hinsert]
    -- the window that was refused is new, so it has no focus that could be lost
    split
    · next heq => exact absurd (heq ▸ hnew refusal hr) hother
    · exact hother

theorem Informed.stopInput {r : Option Handle} (h : s.Informed) (distinct : s.windows.Distinct)
    (hstop : (s.stopInput S window).Yields (r, s')) : s'.Informed := by
  obtain ⟨-, -, hwindows⟩ := stopInput_yields hstop
  obtain ⟨hlayouts, ⟨-, rfl⟩ | hkeyboard⟩ := stopInput_keyboard hstop
  · exact h
  · by_cases hfocus : s.keyboard.focus = some window
    · rw [if_pos hfocus] at hkeyboard
      exact .of_focus_eq_none (by rw [hkeyboard])
    · -- the focus is on another window, which stays
      rw [if_neg hfocus] at hkeyboard
      have registered : ({ s with windows := s'.windows } : Seat).Informed := by
        refine ⟨fun other hother => ?_, h.told⟩
        dsimp only at hother ⊢
        rw [hwindows, WindowTable.lookup?_remove distinct, if_neg]
        · exact h.registered other hother
        · rintro rfl
          exact hfocus hother
      exact registered.congr ⟨rfl, by rw [hkeyboard], by rw [hkeyboard], hlayouts⟩

/-! ## Runs -/

theorem Step.Possible.distinct (possible : t.Possible S) (h : t.before.windows.Distinct) :
    t.after.windows.Distinct := by
  rcases possible.cases with ⟨screen, e, -, hdispatch⟩ |
    ⟨-, -, ⟨window, handle, -, hstart⟩ | ⟨window, r, hstop⟩ | same⟩
  · rw [(dispatch_keeps hdispatch).windows]
    exact h
  · rcases startInput_yields hstart with
      ⟨e, -, heq⟩ | ⟨-, windows, hinsert, ⟨-, heq⟩ | ⟨refusal, -, heq⟩⟩
    · rw [heq]
      exact h
    · rw [heq]
      exact h.insert? hinsert
    · rw [heq]
      -- a refused window is entered and taken out again
      exact (h.insert? hinsert).remove
  · rw [(stopInput_yields hstop).2.2]
    exact h.remove
  · rw [same.windows]
    exact h

/-- A step tells what an announcement does, if it tells anything. -/
theorem Step.Possible.changes (possible : t.Possible S) :
    Seat.changes t.deliveries = [] ∧ t.after.keyboard.lastHkl = t.before.keyboard.lastHkl ∨
      ∃ window handle layout, Seat.changes t.deliveries = [(handle, layout.hkl)] ∧
        t.after.keyboard.focus = some window ∧ t.after.windows.lookup? window = some handle ∧
        t.after.layouts.active = some layout ∧
        t.before.keyboard.lastHkl ≠ some layout.hkl ∧
        t.after.keyboard.lastHkl = some layout.hkl := by
  rcases possible.cases with ⟨screen, e, -, hdispatch⟩ |
    ⟨-, hnil, ⟨window, handle, -, hstart⟩ | ⟨window, r, hstop⟩ | same⟩
  · exact (dispatch_announces hdispatch).changes
  · rw [hnil, (startInput_keyboard hstart).1]
    exact .inl ⟨rfl, rfl⟩
  · rw [hnil]
    obtain ⟨-, ⟨-, heq⟩ | hkeyboard⟩ := stopInput_keyboard hstop
    · rw [heq]
      exact .inl ⟨rfl, rfl⟩
    · rw [hkeyboard]
      exact .inl ⟨rfl, rfl⟩
  · rw [hnil, same.keyboard]
    exact .inl ⟨rfl, rfl⟩

theorem Step.Possible.informed (possible : t.Possible S) (hrefuses : ¬t.RefusesRegistered)
    (distinct : t.before.windows.Distinct) (h : t.before.Informed) : t.after.Informed := by
  rcases possible.cases with ⟨screen, e, -, hdispatch⟩ |
    ⟨-, -, ⟨window, handle, hop, hstart⟩ | ⟨window, r, hstop⟩ | same⟩
  · exact (dispatch_announces hdispatch).informed h
  · refine h.startInput distinct hstart fun refusal hr => ?_
    apply Decidable.byContradiction
    intro hold
    exact hrefuses ⟨window, handle, refusal, hop, hold, hr⟩
  · exact h.stopInput distinct hstop
  · exact h.congr same.sameFocus

/-- The layouts that windows were told of, in order. -/
def told (steps : List Step) : List UInt32 :=
  (changes (steps.flatMap Step.deliveries)).map Prod.snd

theorem told_snoc (steps : List Step) (t : Step) :
    told (steps ++ [t]) = told steps ++ (changes t.deliveries).map Prod.snd := by
  simp [told, changes_append]

/-- The last layout that was told is remembered, and the next one is another. -/
theorem Run.told_isChain (run : Run S start steps s) (hstart : start.keyboard.lastHkl = none) :
    (told steps).IsChain (· ≠ ·) ∧ (told steps).getLast? = s.keyboard.lastHkl := by
  induction run with
  | nil => exact ⟨.nil, hstart.symm⟩
  | @snoc steps t _ possible ih =>
    obtain ⟨chain, last⟩ := ih
    rw [told_snoc]
    rcases possible.changes with
      ⟨hnil, hsame⟩ | ⟨window, handle, layout, hone, -, -, -, hnews, hlast⟩
    · rw [hnil, hsame, List.map_nil, List.append_nil]
      exact ⟨chain, last⟩
    · rw [hone, hlast, List.map_singleton, List.getLast?_concat]
      -- what is told is news, and what was told last is what the seat remembers
      refine ⟨chain.append (.singleton _) ?_, rfl⟩
      intro hkl hhkl hkl' hhkl'
      cases hhkl'
      rintro rfl
      exact hnews (last ▸ hhkl)

theorem Run.informed (run : Run S start steps s) (opened : (connect S display).Yields (.ok start))
    (h : ∀ t ∈ steps, ¬t.RefusesRegistered) : s.windows.Distinct ∧ s.Informed := by
  induction run with
  | nil =>
    obtain ⟨-, hwindows, -⟩ := connect_yields opened
    obtain ⟨device, report, -, hkeyboard⟩ := connect_keyboard opened
    refine ⟨?_, .of_focus_eq_none (by rw [hkeyboard])⟩
    rw [hwindows]
    exact .empty
  | @snoc steps t _ possible ih =>
    obtain ⟨distinct, informed⟩ := ih fun t ht => h t (List.mem_append_left _ ht)
    exact ⟨possible.distinct distinct, possible.informed (h t (by simp)) distinct informed⟩

/-- Language changes that follow one another are to different layouts. Each one goes to the
handle of the focused window and is to the active layout. Unless the display server refuses a
window that is registered already, a focused window that is registered was told last of the
layout that is active. -/
theorem Run.languages_told (opened : (connect S display).Yields (.ok start))
    (run : Run S start steps s) :
    (told steps).IsChain (· ≠ ·) ∧
    (∀ t ∈ steps, ∀ handle hkl, .language handle hkl ∈ t.deliveries →
      ∃ window layout, t.after.keyboard.focus = some window ∧
        t.after.windows.lookup? window = some handle ∧
        t.after.layouts.active = some layout ∧ hkl = layout.hkl) ∧
    ((∀ t ∈ steps, ¬t.RefusesRegistered) → ∀ window layout, s.keyboard.focus = some window →
      s.windows.lookup? window ≠ none → s.layouts.active = some layout →
      (told steps).getLast? = some layout.hkl) := by
  obtain ⟨device, report, -, hkeyboard⟩ := connect_keyboard opened
  obtain ⟨chain, last⟩ := run.told_isChain (by rw [hkeyboard])
  refine ⟨chain, ?_, ?_⟩
  · intro t ht handle hkl hmem
    have hchange : (handle, hkl) ∈ changes t.deliveries := List.mem_filterMap.mpr ⟨_, hmem, rfl⟩
    rcases (run.possible ht).changes with
      ⟨hnil, -⟩ | ⟨window, handle', layout, hone, hfocus, hhandle, hactive, -⟩
    · rw [hnil] at hchange
      cases hchange
    · rw [hone] at hchange
      cases List.mem_singleton.mp hchange
      exact ⟨window, layout, hfocus, hhandle, hactive, rfl⟩
  · intro h window layout hfocus _ hactive
    rw [last]
    exact (run.informed opened h).2.told layout (by simp [hfocus]) hactive

/-- The seat that is set up over a server with two groups. -/
def twoGroupSeat : Seat := ((connect twoGroupServer ":0" ⟨(), 1⟩).1.toOption).getD default

/-- A window is registered and gains the focus, then the keyboard goes to the other group. -/
def groupSwitch : List (Operation × World Unit) :=
  [(.startInput 0x500 1, ⟨(), 2⟩), (.event ⟨0, 0, 800, 600⟩ (.focus true 0x500 0 0), ⟨(), 2⟩),
    (.event ⟨0, 0, 800, 600⟩ (.keyboardState 1 2), ⟨(), 2⟩)]

theorem connect_twoGroupServer : (connect twoGroupServer ":0").Yields (.ok twoGroupSeat) := by
  have opened : (connect twoGroupServer ":0" ⟨(), 1⟩).1.toOption.isSome := by decide +kernel
  refine ⟨⟨(), 1⟩, ?_⟩
  rw [twoGroupSeat]
  cases h : (connect twoGroupServer ":0" ⟨(), 1⟩).1 with
  | ok seat => rfl
  | error e => simp [h, Except.toOption] at opened

/-- The window is told of the layouts of both groups. -/
theorem groupSwitch_told :
    let steps := twoGroupSeat.play twoGroupServer groupSwitch
    told steps = [0x04090409, 0xf0010409] ∧ (told steps).IsChain (· ≠ ·) ∧
      ∀ t ∈ steps, ∀ handle hkl, .language handle hkl ∈ t.deliveries →
        ∃ window layout, t.after.keyboard.focus = some window ∧
          t.after.windows.lookup? window = some handle ∧
          t.after.layouts.active = some layout ∧ hkl = layout.hkl := by
  obtain ⟨chain, current, -⟩ :=
    Run.languages_told connect_twoGroupServer (run_play twoGroupServer twoGroupSeat groupSwitch)
  exact ⟨by decide +kernel, chain, current⟩

end Seat

end InputBridge
