-- SUMMARY: What is left of a window that a seat or its display server turns down.
import InputBridge.Proofs.Seat.Language

/-!
# Windows that are turned down

A seat that has failed, or whose table is full, turns a window down by itself and is left as it
was. A window that the display server refuses is forgotten. If it was new, that leaves no trace of
it. If it had a handle already the seat loses a registration that it was not asked to give up, and
the focus may stay on a window that nobody has registered.
-/

namespace InputBridge

namespace Seat

variable {σ : Type} {S : DisplayServer σ} {start s s' : Seat} {steps : List Step} {t : Step}
  {display : String} {window : WindowId} {handle : Handle} {e : SeatError}

/-- No window has an entry too many, whatever has been registered and stopped. -/
theorem Run.distinct (opened : (connect S display).Yields (.ok start)) (run : Run S start steps s) :
    s.windows.Distinct := by
  induction run with
  | nil =>
    rw [(connect_yields opened).2.1]
    exact .empty
  | snoc _ possible ih => exact possible.distinct ih

/-! ## One request -/

/-- The seat turns the window down by itself, or it forgets one that the server refuses. -/
theorem startInput_error (distinct : s.windows.Distinct)
    (h : (s.startInput S window handle).Yields (.error e, s')) :
    s' = s ∧ (∀ refusal, e ≠ .refused refusal) ∨
      (∃ refusal, e = .refused refusal) ∧ s'.keyboard = s.keyboard ∧
        ∀ other, s'.windows.lookup? other =
          if other = window then none else s.windows.lookup? other := by
  unfold startInput at h
  split at h
  · cases h.of_pure
    exact .inl ⟨rfl, nofun⟩
  split at h
  · cases h.of_pure
    exact .inl ⟨rfl, nofun⟩
  -- the table has the window already when the display server is asked for it
  next windows hinsert =>
  obtain ⟨answer, -, h⟩ := h.of_bind
  cases answer with
  | ok _ => cases h.of_pure
  | error refusal =>
    cases h.of_pure
    refine .inr ⟨⟨refusal, rfl⟩, rfl, fun other => ?_⟩
    dsimp only
    -- taking the window out again undoes the entry only if there was none before
    rw [WindowTable.lookup?_remove (distinct.insert? hinsert), WindowTable.lookup?_insert? hinsert]
    split <;> rfl

/-- Each window is found as before, unless one that was registered is refused. -/
theorem lookups_kept_iff (distinct : s.windows.Distinct)
    (h : (s.startInput S window handle).Yields (.error e, s')) :
    (∀ other, s'.windows.lookup? other = s.windows.lookup? other) ↔
      ¬(s.windows.lookup? window ≠ none ∧ ∃ refusal, e = .refused refusal) := by
  rcases startInput_error distinct h with ⟨rfl, hnone⟩ | ⟨hrefused, -, hlookup⟩
  · have hnot : ¬∃ refusal, e = .refused refusal := fun ⟨refusal, he⟩ => hnone refusal he
    simp [hnot]
  · constructor
    · intro hsame hold
      -- it was found before, and is not found now
      refine hold.1 ?_
      rw [← hsame, hlookup, if_pos rfl]
    · intro hnew other
      rw [hlookup]
      split
      · next hother =>
        subst hother
        exact (not_not.mp fun hold => hnew ⟨hold, hrefused⟩).symm
      · rfl

/-- The focus is as good as before, unless the window that has it is refused. -/
theorem focus_kept_iff (distinct : s.windows.Distinct)
    (h : (s.startInput S window handle).Yields (.error e, s')) :
    (s.FocusRegistered → s'.FocusRegistered) ↔
      ¬((s.windows.lookup? window ≠ none ∧ ∃ refusal, e = .refused refusal) ∧
        s.keyboard.focus = some window) := by
  rcases startInput_error distinct h with ⟨rfl, hnone⟩ | ⟨hrefused, hkeyboard, hlookup⟩
  · have hnot : ¬∃ refusal, e = .refused refusal := fun ⟨refusal, he⟩ => hnone refusal he
    simp [hnot]
  · constructor
    · rintro hkept ⟨⟨hold, -⟩, hfocus⟩
      -- the focus was on a registered window, namely the one that is refused
      have had : s.FocusRegistered := fun focus hfocus' => by
        obtain rfl : window = focus := Option.some.inj (hfocus.symm.trans hfocus')
        exact hold
      refine hkept had window (hkeyboard ▸ hfocus) ?_
      rw [hlookup, if_pos rfl]
    · intro hkept had focus hfocus
      rw [hkeyboard] at hfocus
      rw [hlookup, if_neg]
      · exact had focus hfocus
      -- a refused window that has the focus would be one that was registered, as the focus was
      · rintro rfl
        exact hkept ⟨⟨had focus hfocus, hrefused⟩, hfocus⟩

/-! ## Any seat -/

theorem Step.Possible.startInput (possible : t.Possible S)
    (hoperation : t.operation = .startInput window handle) :
    (t.before.startInput S window handle).Yields (t.result, t.after) := by
  obtain ⟨before, operation, result, deliveries, after⟩ := t
  cases hoperation
  obtain ⟨⟨r, s⟩, hstart, h⟩ := Checked.Yields.of_bind possible
  cases h.of_pure
  exact hstart.of_talk

/-- Whatever the reason for which a window is turned down, the seat finds each window as before,
exactly if the server did not refuse one that was registered. The focus, which is not moved, is
lost to a window that nobody has registered exactly if that window had it. -/
theorem Run.lookup?_of_startInput_error (opened : (connect S display).Yields (.ok start))
    (run : Run S start steps t.before) (possible : t.Possible S)
    (hoperation : t.operation = .startInput window handle) (hresult : t.result = .error e) :
    ((∀ other, t.after.windows.lookup? other = t.before.windows.lookup? other) ↔
      ¬t.RefusesRegistered) ∧
    ((t.before.FocusRegistered → t.after.FocusRegistered) ↔
      ¬(t.RefusesRegistered ∧ t.before.keyboard.focus = some window)) ∧
    t.after.keyboard = t.before.keyboard ∧
    ∀ other, other ≠ window → t.after.windows.lookup? other = t.before.windows.lookup? other := by
  have distinct := run.distinct opened
  have hstart := possible.startInput hoperation
  rw [hresult] at hstart
  have refuses : t.RefusesRegistered ↔
      t.before.windows.lookup? window ≠ none ∧ ∃ refusal, e = .refused refusal := by
    simp [Step.RefusesRegistered, hoperation, hresult]
  rw [refuses]
  refine ⟨lookups_kept_iff distinct hstart, focus_kept_iff distinct hstart,
    (startInput_keyboard hstart).1, fun other hother => ?_⟩
  -- the other windows are found as before in either case
  rcases startInput_error distinct hstart with ⟨heq, -⟩ | ⟨-, -, hlookup⟩
  · rw [heq]
  · rw [hlookup, if_neg hother]

/-- A display server with an empty keyboard. Its state says whether it refuses windows; it grants
everything else. -/
def choosyServer : DisplayServer Bool where
  openLink display refuses := ((twoGroupServer.openLink display ()).1, refuses)
  answer
    | _, .selectInput _ _, refuses =>
      (if refuses then .error (.request "BadWindow") else .ok (), refuses)
    | _, .keymap _, refuses =>
      (.ok ⟨8, 8, 0, fun _ => none, fun _ _ => none, fun _ => 0, fun _ _ _ => none⟩, refuses)
    | link, r, refuses => ((twoGroupServer.answer link r ()).1, refuses)
  closeLink _ refuses := refuses

/-- The seat that is set up over it. -/
def choosySeat : Seat := ((connect choosyServer ":0" ⟨false, 1⟩).1.toOption).getD default

theorem connect_choosyServer : (connect choosyServer ":0").Yields (.ok choosySeat) := by
  have opened : (connect choosyServer ":0" ⟨false, 1⟩).1.toOption.isSome := by decide +kernel
  refine ⟨⟨false, 1⟩, ?_⟩
  rw [choosySeat]
  cases h : (connect choosyServer ":0" ⟨false, 1⟩).1 with
  | ok seat => rfl
  | error e => simp [h, Except.toOption] at opened

/-- A window is registered and gains the focus. -/
def focusedWindow : List Step :=
  choosySeat.play choosyServer
    [(.startInput 0x500 1, ⟨false, 1⟩),
      (.event ⟨0, 0, 800, 600⟩ (.focus true 0x500 0 0), ⟨false, 1⟩)]

/-- Then a window is registered while the server refuses windows. -/
def refusedWindow (window : WindowId) : Step :=
  let before := choosySeat.finish focusedWindow
  let (result, after) := (before.startInput choosyServer window 2 ⟨true, 1⟩).1
  { before, operation := .startInput window 2, result, deliveries := [], after }

theorem run_refusedWindow (window : WindowId) :
    Run choosyServer choosySeat focusedWindow (refusedWindow window).before := run_play _ _ _

theorem refusedWindow_possible (window : WindowId) :
    (refusedWindow window).Possible choosyServer := ⟨⟨true, 1⟩, rfl⟩

/-- Another window is refused: the first keeps its handle and the focus. -/
theorem refusedWindow_new :
    let t := refusedWindow 0x501
    t.before.windows.lookup? 0x500 = some 1 ∧ t.before.FocusRegistered ∧
      (∀ other, t.after.windows.lookup? other = t.before.windows.lookup? other) ∧
      t.after.FocusRegistered := by
  intro t
  have run : Run choosyServer choosySeat focusedWindow t.before := run_refusedWindow _
  have possible : t.Possible choosyServer := refusedWindow_possible _
  obtain ⟨hresult, hfound, hnew, hfocus⟩ :
      t.result = .error (.refused (.request "BadWindow")) ∧
      t.before.windows.lookup? 0x500 = some 1 ∧ t.before.windows.lookup? 0x501 = none ∧
      t.before.keyboard.focus = some 0x500 := by decide +kernel
  have registered : t.before.FocusRegistered := fun focus hfocus' => by
    cases hfocus.symm.trans hfocus'
    simp [hfound]
  obtain ⟨hlookup, hfocused, -⟩ :=
    Run.lookup?_of_startInput_error connect_choosyServer run possible rfl
      hresult
  -- the refused window is not among those that were found before
  have hgrants : ¬t.RefusesRegistered := by
    rintro ⟨window, handle, refusal, hoperation, hold, -⟩
    obtain rfl : (0x501 : WindowId) = window := by
      cases hoperation
      rfl
    exact hold hnew
  exact ⟨hfound, registered, hlookup.mpr hgrants, hfocused.mpr (fun h => hgrants h.1) registered⟩

/-- The focused window is refused a second handle: it loses its first one, and the focus is on a
window that nobody has registered. -/
theorem refusedWindow_registered :
    let t := refusedWindow 0x500
    (connect choosyServer ":0").Yields (.ok choosySeat) ∧
      Run choosyServer choosySeat focusedWindow t.before ∧ t.Possible choosyServer ∧
      t.operation = .startInput 0x500 2 ∧
      t.result = .error (.refused (.request "BadWindow")) ∧
      t.before.windows.lookup? 0x500 = some 1 ∧ t.after.windows.lookup? 0x500 = none ∧
      t.before.FocusRegistered ∧ ¬t.after.FocusRegistered := by
  intro t
  obtain ⟨hresult, hfound, hlost, hfocus, hfocus'⟩ :
      t.result = .error (.refused (.request "BadWindow")) ∧
      t.before.windows.lookup? 0x500 = some 1 ∧ t.after.windows.lookup? 0x500 = none ∧
      t.before.keyboard.focus = some 0x500 ∧ t.after.keyboard.focus = some 0x500 := by
    decide +kernel
  refine ⟨connect_choosyServer, run_refusedWindow _, refusedWindow_possible _, rfl, hresult,
    hfound, hlost, fun focus hfocus'' => ?_,
    fun registered => registered 0x500 hfocus' hlost⟩
  cases hfocus.symm.trans hfocus''
  simp [hfound]

end Seat

end InputBridge
