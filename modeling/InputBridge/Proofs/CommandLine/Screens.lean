-- SUMMARY: The texts of rectangles that are read, and that the broker accepts what is read.
import InputBridge.CommandLine
import InputBridge.Proofs.Broker.Answers
import InputBridge.Proofs.CommandLine.Grammar
import InputBridge.Proofs.Text.Numeral

/-!
# Screens on the command line

A rectangle is read exactly from the texts of the form `X,Y,WxH` that give its near corner and its
size. It is never empty, so the broker does not object to the rectangle that a client was called
with. Every rectangle with a size that fits is read from the text that shows it.
-/

namespace InputBridge

namespace CommandLine

/-- The text is `X,Y,WxH`: its first two commas, and the first `x` after them, stand between the
numerals of four numbers. -/
inductive ScreenText : List Char → (x y width height : Int) → Prop where
  | intro {xs ys ws hs : List Char} {x y width height : Int} (noComma : ',' ∉ xs)
      (noComma' : ',' ∉ ys) (noCross : 'x' ∉ ws) (left : Text.Written True xs x)
      (top : Text.Written True ys y) (across : Text.Written False ws width)
      (down : Text.Written False hs height) :
    ScreenText (xs ++ ',' :: (ys ++ ',' :: (ws ++ 'x' :: hs))) x y width height

variable {sep : Char} {before after cs : List Char} {s : String} {r : Rect}
  {min max x y width height near extent n : Int}

/-! ## Parts -/

theorem splitAtFirst_eq_some_iff :
    splitAtFirst sep cs = some (before, after) ↔ cs = before ++ sep :: after ∧ sep ∉ before := by
  induction cs generalizing before with
  | nil => simp [splitAtFirst]
  | cons c cs ih =>
    rw [splitAtFirst]
    cases before with
    | nil =>
      by_cases hc : c = sep
      · simp [hc, eq_comm]
      · simp [hc]
    | cons b before =>
      by_cases hc : c = sep
      · -- the separator is the first character, so it is among those in front
        rw [if_pos hc]
        refine iff_of_false nofun ?_
        rintro ⟨heq, hsep⟩
        obtain ⟨rfl, -⟩ := List.cons.inj heq
        exact hsep (hc ▸ List.mem_cons_self)
      · rw [if_neg hc, Option.map_eq_some_iff]
        constructor
        · rintro ⟨⟨before', after'⟩, hsplit, heq⟩
          cases heq
          obtain ⟨rfl, hsep⟩ := ih.mp hsplit
          exact ⟨rfl, List.not_mem_cons_of_ne_of_not_mem (Ne.symm hc) hsep⟩
        · rintro ⟨heq, hsep⟩
          obtain ⟨rfl, rfl⟩ := List.cons.inj heq
          exact ⟨(before, after), ih.mpr ⟨rfl, List.not_mem_of_not_mem_cons hsep⟩, rfl⟩

theorem number?_eq_some_iff (hmin : min ≤ 0) (hmax : 0 ≤ max) :
    number? min max cs = some n ↔ Text.Written (min < 0) cs n ∧ min ≤ n ∧ n ≤ max := by
  rw [number?, ← Text.parseInt_trim_eq_ok_iff hmin hmax]
  cases Text.parseInt 10 min max (String.ofList (Text.trim cs)) with
  | error e => simp [Except.toOption]
  | ok m => simp [Except.toOption]

theorem screenNumbers?_eq_some_iff :
    screenNumbers? s = some (x, y, width, height) ↔ ScreenText s.toList x y width height ∧
      (-2147483648 ≤ x ∧ x ≤ 2147483647) ∧ (-2147483648 ≤ y ∧ y ≤ 2147483647) ∧
      (0 ≤ width ∧ width ≤ 4294967295) ∧ (0 ≤ height ∧ height ≤ 4294967295) := by
  have signed (cs : List Char) (n : Int) : number? (-2147483648) 2147483647 cs = some n ↔
      Text.Written True cs n ∧ -2147483648 ≤ n ∧ n ≤ 2147483647 := by
    simpa using @number?_eq_some_iff cs (-2147483648) 2147483647 n (by decide) (by decide)
  have unsigned (cs : List Char) (n : Int) : number? 0 4294967295 cs = some n ↔
      Text.Written False cs n ∧ 0 ≤ n ∧ n ≤ 4294967295 := by
    simpa using @number?_eq_some_iff cs 0 4294967295 n (by decide) (by decide)
  simp only [screenNumbers?, Option.bind_eq_bind, Option.bind_eq_some_iff, Prod.exists,
    splitAtFirst_eq_some_iff, signed, unsigned]
  constructor
  · rintro ⟨xs, rest, ⟨heq, noComma⟩, ys, size, ⟨rfl, noComma'⟩, ws, hs, ⟨rfl, noCross⟩,
      _, ⟨left, hx⟩, _, ⟨top, hy⟩, _, ⟨across, hwidth⟩, _, ⟨down, hheight⟩, hnumbers⟩
    cases hnumbers
    rw [heq]
    exact ⟨.intro noComma noComma' noCross left top across down, hx, hy, hwidth, hheight⟩
  · rintro ⟨htext, hx, hy, hwidth, hheight⟩
    -- the cases are those of the characters by themselves
    generalize s.toList = cs at htext
    cases htext with
    | @intro xs ys ws hs _ _ _ _ noComma noComma' noCross left top across down =>
      exact ⟨xs, _, ⟨rfl, noComma⟩, ys, _, ⟨rfl, noComma'⟩, ws, hs, ⟨rfl, noCross⟩,
        x, ⟨left, hx⟩, y, ⟨top, hy⟩, width, ⟨across, hwidth⟩, height, ⟨down, hheight⟩, rfl⟩

theorem farEdge?_eq_some_iff : farEdge? near extent = some n ↔
    extent ≤ 2147483647 ∧ near + extent ≤ 2147483647 ∧ n = near + extent := by
  unfold farEdge?
  split
  · next h =>
    simp only [Option.some.injEq]
    exact ⟨fun heq => ⟨h.1, h.2, heq.symm⟩, fun heq => heq.2.2.symm⟩
  · next h =>
    refine iff_of_false nofun ?_
    rintro ⟨hextent, hfar, -⟩
    exact h ⟨hextent, hfar⟩

/-! ## Rectangles -/

/-- The edges of a rectangle are the numbers that its text gives. -/
structure Spans (r : Rect) (x y width height : Int) : Prop where
  left : r.left.toInt = x
  top : r.top.toInt = y
  right : r.right.toInt = x + width
  bottom : r.bottom.toInt = y + height

theorem Spans.within (h : Spans r x y width height) :
    (-2147483648 ≤ x ∧ x ≤ 2147483647) ∧ (-2147483648 ≤ y ∧ y ≤ 2147483647) := by
  have hleft := r.left.le_toInt
  have hleft' := r.left.toInt_lt
  have htop := r.top.le_toInt
  have htop' := r.top.toInt_lt
  rw [h.left] at hleft hleft'
  rw [h.top] at htop htop'
  omega

theorem Spans.eq (h : Spans r x y width height) :
    r = ⟨.ofInt x, .ofInt y, .ofInt (x + width), .ofInt (y + height)⟩ := by
  rw [← h.right, ← h.bottom, ← h.left, ← h.top]
  simp only [Int32.ofInt_toInt]

theorem spans_ofInt (hx : -2147483648 ≤ x) (hy : -2147483648 ≤ y) (hwidth : 0 ≤ width)
    (hheight : 0 ≤ height) (hright : x + width ≤ 2147483647) (hbottom : y + height ≤ 2147483647) :
    Spans ⟨.ofInt x, .ofInt y, .ofInt (x + width), .ofInt (y + height)⟩ x y width height where
  left := Int32.toInt_ofInt_of_le hx (by omega)
  top := Int32.toInt_ofInt_of_le hy (by omega)
  right := Int32.toInt_ofInt_of_le (by omega) (by omega)
  bottom := Int32.toInt_ofInt_of_le (by omega) (by omega)

theorem parseScreen_eq_ok_iff : parseScreen s = .ok r ↔
    ∃ x y width height, ScreenText s.toList x y width height ∧
      (1 ≤ width ∧ width ≤ 2147483647) ∧ (1 ≤ height ∧ height ≤ 2147483647) ∧
      x + width ≤ 2147483647 ∧ y + height ≤ 2147483647 ∧ Spans r x y width height := by
  constructor
  · intro h
    unfold parseScreen at h
    split at h
    · cases h
    next x y width height hnumbers =>
    obtain ⟨htext, hx, hy, hwidth, hheight⟩ := screenNumbers?_eq_some_iff.mp hnumbers
    split at h
    · cases h
    next hsize =>
    split at h
    · next right bottom hright hbottom =>
      obtain ⟨hwidth', hright', rfl⟩ := farEdge?_eq_some_iff.mp hright
      obtain ⟨hheight', hbottom', rfl⟩ := farEdge?_eq_some_iff.mp hbottom
      cases h
      exact ⟨x, y, width, height, htext, ⟨by omega, hwidth'⟩, ⟨by omega, hheight'⟩, hright',
        hbottom', spans_ofInt hx.1 hy.1 hwidth.1 hheight.1 hright' hbottom'⟩
    · cases h
  · rintro ⟨x, y, width, height, htext, hwidth, hheight, hright, hbottom, spans⟩
    -- the near corner is that of a rectangle, so its numbers are in range
    obtain ⟨hx, hy⟩ := spans.within
    have hnumbers := screenNumbers?_eq_some_iff.mpr ⟨htext, hx, hy, ⟨by omega, by omega⟩,
      ⟨by omega, by omega⟩⟩
    have hsize : ¬(width = 0 ∨ height = 0) := by omega
    rw [parseScreen, hnumbers]
    simp only [if_neg hsize, farEdge?_eq_some_iff.mpr ⟨hwidth.2, hright, rfl⟩,
      farEdge?_eq_some_iff.mpr ⟨hheight.2, hbottom, rfl⟩, spans.eq]

theorem Spans.width_eq (h : Spans r x y width height) : r.width = width := by
  have := h.left
  have := h.right
  unfold Rect.width
  omega

theorem Spans.height_eq (h : Spans r x y width height) : r.height = height := by
  have := h.top
  have := h.bottom
  unfold Rect.height
  omega

/-- No rectangle that is read is empty. -/
theorem pos_of_parseScreen (h : parseScreen s = .ok r) : 0 < r.width ∧ 0 < r.height := by
  obtain ⟨x, y, width, height, -, hwidth, hheight, -, -, spans⟩ := parseScreen_eq_ok_iff.mp h
  rw [spans.width_eq, spans.height_eq]
  omega

/-! ## Showing a rectangle -/

/-- The text of a rectangle. -/
def screenText (r : Rect) : String :=
  toString r.left.toInt ++ "," ++ toString r.top.toInt ++ "," ++
    (toString r.width ++ "x" ++ toString r.height)

/-- What separates numbers is not in what is printed of a number. -/
theorem not_mem_toString (n : Int) (hdigit : sep.isDigit = false) (hplus : sep ≠ '+')
    (hminus : sep ≠ '-') : sep ∉ (toString n).toList := by
  intro hsep
  have numeral : Text.Numeral True _ n := Text.numeral_toString n fun _ => trivial
  refine numeral.forall_mem (P := (· ≠ sep)) (fun c hc heq => ?_) hplus.symm hminus.symm sep hsep
    rfl
  rw [heq, hdigit] at hc
  cases hc

theorem screenText_written (hwidth : 0 ≤ r.width) (hheight : 0 ≤ r.height) :
    ScreenText (screenText r).toList r.left.toInt r.top.toInt r.width r.height := by
  have hparts : (screenText r).toList = (toString r.left.toInt).toList ++ ',' ::
      ((toString r.top.toInt).toList ++ ',' ::
        ((toString r.width).toList ++ 'x' :: (toString r.height).toList)) := by
    simp [screenText]
  rw [hparts]
  exact .intro (not_mem_toString _ rfl (by decide) (by decide))
    (not_mem_toString _ rfl (by decide) (by decide))
    (not_mem_toString _ rfl (by decide) (by decide))
    (Text.numeral_toString _ fun _ => trivial).written
    (Text.numeral_toString _ fun _ => trivial).written
    (Text.numeral_toString _ fun h => absurd h (by omega)).written
    (Text.numeral_toString _ fun h => absurd h (by omega)).written

/-- A rectangle is read from its own text. -/
theorem parseScreen_screenText (hwidth : 0 < r.width) (hwidth' : r.width ≤ 2147483647)
    (hheight : 0 < r.height) (hheight' : r.height ≤ 2147483647) :
    parseScreen (screenText r) = .ok r := by
  have hright := r.right.toInt_lt
  have hbottom := r.bottom.toInt_lt
  have spans : Spans r r.left.toInt r.top.toInt r.width r.height := by
    refine ⟨rfl, rfl, ?_, ?_⟩ <;> simp only [Rect.width, Rect.height] <;> omega
  have text := screenText_written (Int.le_of_lt hwidth) (Int.le_of_lt hheight)
  refine parseScreen_eq_ok_iff.mpr ⟨_, _, _, _, text, ⟨hwidth, hwidth'⟩, ⟨hheight, hheight'⟩,
    ?_, ?_, spans⟩
  · rw [← spans.right]
    omega
  · rw [← spans.bottom]
    omega

/-! ## Clients that confine the cursor -/

/-- The rectangle, if there is one, has a size. -/
def Sized (rect : Option Rect) : Prop := ∀ r, rect = some r → 0 < r.width ∧ 0 < r.height

theorem sized_none : Sized none := by
  rintro r ⟨⟩

theorem clipCommand_keeps : clipCommand.Keeps Sized where
  flags := nofun
  options := nofun
  positionals slot hslot := by
    obtain rfl := List.mem_singleton.mp hslot
    intro v rect rect' hstore _ r hr
    obtain ⟨read, hread, rfl⟩ := of_map_eq_ok hstore
    cases hr
    exact pos_of_parseScreen (of_mapError_eq_ok hread)

theorem readAction_eq_clip {word : String} {args : List String} {rect : Option Rect}
    (h : readAction word args = .ok (.clip rect)) : clipCommand.readAll none args = .ok rect := by
  unfold readAction at h
  split at h
  -- an unknown word is an error, and of the others only one leads to confining
  on_goal 7 => cases h
  all_goals
    obtain ⟨read, hread, heq⟩ := of_map_eq_ok h
    cases heq
  exact hread

theorem readClient_eq_ok {envDisplay socket : Option String} {args : List String} {display : String}
    {action : Action} (h : readClient envDisplay args = .ok (.client socket display action)) :
    ∃ word words, readAction word words = .ok action := by
  obtain ⟨⟨a, read⟩, hread, h⟩ := of_bind_eq_ok h
  dsimp only at h
  split at h
  · cases h
    obtain ⟨_, _, _, _, _, _, hsub⟩ := Command.read_eq_ok hread
    obtain ⟨word, words, -, haction⟩ := hsub action rfl
    exact ⟨word, words, haction⟩
  · cases h

theorem parse_eq_client {envDisplay socket : Option String} {args : List String} {display : String}
    {action : Action} (h : parse envDisplay args = .ok (.client socket display action)) :
    ∃ word words, readAction word words = .ok action := by
  obtain ⟨⟨_, invocation⟩, hread, h⟩ := of_bind_eq_ok h
  dsimp only at h
  split at h
  · cases h
    obtain ⟨_, _, _, _, _, _, hsub⟩ := Command.read_eq_ok hread
    obtain ⟨word, words, -, hprogram⟩ := hsub _ rfl
    unfold readProgram at hprogram
    split at hprogram
    · obtain ⟨_, -, heq⟩ := of_map_eq_ok hprogram
      cases heq
    · exact readClient_eq_ok hprogram
    · cases hprogram
  · cases h

/-- A client that is called to confine the cursor is called with a rectangle that has a size, or
with none. -/
theorem sized_of_parse {envDisplay socket : Option String} {args : List String} {display : String}
    {rect : Option Rect} (h : parse envDisplay args = .ok (.client socket display (.clip rect))) :
    Sized rect := by
  obtain ⟨word, words, haction⟩ := parse_eq_client h
  exact clipCommand_keeps.readAll sized_none (readAction_eq_clip haction)

/-- The broker does not object to what such a client asks. -/
theorem clip_status {σ : Type} {S : DisplayServer σ} {b b' : Broker} {c : ClientId} {id : UInt32}
    {rect : Option Rect} {answer : Message} {out : List Outbound} (sized : Sized rect)
    (h : (b.handle S c (.clipCursor id rect)).Yields (answer, out, b')) :
    ∃ r, answer = .response r ∧ r.status ≠ .invalidParameter := by
  obtain ⟨⟨r, b₁⟩, hclip, h⟩ := h.of_bind
  cases h.of_pure
  exact ⟨r, rfl, Broker.onClipCursor_status sized hclip⟩

/-! ## All texts -/

/-- The texts that are read are those of the form `X,Y,WxH` with a size that is not 0, where the
size and the far corner fit into 32 bits, and what is read is the rectangle that they give. It is
not empty, so the broker does not object when a client asks to confine the cursor to it. Every
rectangle with a size that fits is read from its text. -/
theorem screens_accepted :
    (∀ s r, parseScreen s = .ok r ↔
      ∃ x y width height, ScreenText s.toList x y width height ∧
        (1 ≤ width ∧ width ≤ 2147483647) ∧ (1 ≤ height ∧ height ≤ 2147483647) ∧
        x + width ≤ 2147483647 ∧ y + height ≤ 2147483647 ∧ Spans r x y width height) ∧
    (∀ s r, parseScreen s = .ok r → 0 < r.width ∧ 0 < r.height) ∧
    (∀ (envDisplay socket : Option String) (args : List String) (display : String)
        (rect : Option Rect),
      parse envDisplay args = .ok (.client socket display (.clip rect)) →
      ∀ {σ : Type} (S : DisplayServer σ) (b b' : Broker) (c : ClientId) (id : UInt32)
        (answer : Message) (out : List Outbound),
        (b.handle S c (.clipCursor id rect)).Yields (answer, out, b') →
        ∃ r, answer = .response r ∧ r.status ≠ .invalidParameter) ∧
    ∀ r : Rect, r.left < r.right → r.top < r.bottom → r.width < 2147483648 →
      r.height < 2147483648 → parseScreen (screenText r) = .ok r := by
  refine ⟨fun _ _ => parseScreen_eq_ok_iff, fun _ _ => pos_of_parseScreen,
    fun _ _ _ _ _ hparse _ _ _ _ _ _ _ _ => clip_status (sized_of_parse hparse),
    fun r hwidth hheight hwidth' hheight' => ?_⟩
  rw [Int32.lt_iff_toInt_lt] at hwidth hheight
  exact parseScreen_screenText (Int.sub_pos_of_lt hwidth) (Int.le_of_lt_add_one hwidth')
    (Int.sub_pos_of_lt hheight) (Int.le_of_lt_add_one hheight')

/-- Two screens, one to the left of the other. -/
def twoScreens : Rect := ⟨-1920, 0, 1920, 1080⟩

theorem twoScreens_accepted :
    parseScreen " -1920 ,0,+3840x1080" = .ok twoScreens ∧
    (0 < twoScreens.width ∧ 0 < twoScreens.height) ∧
    (∃ r, (({ config := {} } : Broker).handle (.unreachable "no display") 1
        (.clipCursor 2 (some twoScreens)) ⟨(), 1⟩).1.1 = .response r ∧
      r.status ≠ .invalidParameter) ∧
    parseScreen "-1920,0,3840x1080" = .ok twoScreens := by
  obtain ⟨reads, sized, answered, shown⟩ := screens_accepted
  have text : ScreenText " -1920 ,0,+3840x1080".toList (-1920) 0 3840 1080 :=
    @ScreenText.intro [' ', '-', '1', '9', '2', '0', ' '] ['0'] ['+', '3', '8', '4', '0']
      ['1', '0', '8', '0'] _ _ _ _ (by decide) (by decide) (by decide)
      ⟨[' '], ['-', '1', '9', '2', '0'], [' '], rfl, List.forall_mem_singleton.mpr rfl,
        List.forall_mem_singleton.mpr rfl, .minus ⟨nofun, by simp⟩ trivial⟩
      (Text.Numeral.unsigned ⟨by decide, by simp⟩).written
      (Text.Numeral.plus ⟨by decide, by simp⟩).written
      (Text.Numeral.unsigned ⟨by decide, by simp⟩).written
  have hread := (reads _ twoScreens).mpr ⟨_, _, _, _, text, by decide, by decide, by decide,
    by decide, rfl, rfl, rfl, rfl⟩
  have hcommand : parse none ["client", "clip", " -1920 ,0,+3840x1080"] =
      .ok (.client none "" (.clip (some twoScreens))) := by decide +kernel
  exact ⟨hread, sized _ _ hread,
    answered _ _ _ _ _ hcommand (.unreachable "no display") { config := {} } _ 1 2 _ _
      (Talk.Yields.run _ ⟨(), 1⟩),
    shown twoScreens (by decide) (by decide) (by decide) (by decide)⟩

end CommandLine

end InputBridge
