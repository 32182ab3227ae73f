-- SUMMARY: The texts that are read as a number, and reading printed numbers back.
import InputBridge.Text.Blank
import InputBridge.Text.Numeral

/-!
# Decimal numerals

A text is read as a number exactly if it is a numeral: digits, one at least, after a sign that may
be left out. The reader stops at the first digit that takes the number out of its range, which makes
no difference, because a number only grows by its digits. What is printed of a number is a numeral
of it.
-/

namespace InputBridge.Text

/-! ## Numerals -/

/-- Decimal digits, one at least. -/
structure IsDigits (cs : List Char) : Prop where
  nonempty : cs ≠ []
  digits : ∀ c ∈ cs, c.isDigit = true

/-- The text is a numeral of the number. A minus sign may stand only where there are negative
numbers. -/
inductive Numeral (negatives : Prop) : List Char → Int → Prop where
  | unsigned {digits : List Char} (h : IsDigits digits) :
    Numeral negatives digits (Nat.ofDigitChars 10 digits 0)
  | plus {digits : List Char} (h : IsDigits digits) :
    Numeral negatives ('+' :: digits) (Nat.ofDigitChars 10 digits 0)
  | minus {digits : List Char} (h : IsDigits digits) (allowed : negatives) :
    Numeral negatives ('-' :: digits) (-Nat.ofDigitChars 10 digits 0)

/-- The text is a numeral of the number with blanks around it. -/
def Written (negatives : Prop) (cs : List Char) (n : Int) : Prop :=
  ∃ before numeral after, cs = before ++ numeral ++ after ∧ (∀ c ∈ before, isBlank c = true) ∧
    (∀ c ∈ after, isBlank c = true) ∧ Numeral negatives numeral n

variable {negatives : Prop} {cs digits : List Char} {c : Char} {n min max : Int}

/-! ## Digits -/

theorem toNat_le_of_isDigit (h : c.isDigit = true) : 48 ≤ c.toNat ∧ c.toNat ≤ 57 := by
  obtain ⟨hlow, hhigh⟩ : '0'.val ≤ c.val ∧ c.val ≤ '9'.val := by simpa [Char.isDigit] using h
  exact ⟨UInt32.le_iff_toNat_le.mp hlow, UInt32.le_iff_toNat_le.mp hhigh⟩

theorem digitValue?_eq_ite (c : Char) :
    digitValue? 10 c = if c.isDigit then some (c.toNat - '0'.toNat) else none := by
  have hdigit : ('0' ≤ c && c ≤ '9') = c.isDigit := rfl
  unfold digitValue?
  rw [hdigit]
  by_cases hc : c.isDigit = true
  · have hlt : c.toNat - '0'.toNat < 10 := by
      have hle := (toNat_le_of_isDigit hc).2
      have hzero : '0'.toNat = 48 := rfl
      omega
    simp only [hc, if_true]
    exact if_pos hlt
  · -- letters stand for ten and more
    simp only [hc, Bool.false_eq_true, if_false]
    apply if_neg
    split
    · omega
    split <;> omega

theorem le_ofDigitChars (digits : List Char) (n : Nat) : n ≤ Nat.ofDigitChars 10 digits n := by
  rw [Nat.ofDigitChars_eq_ofDigitChars_zero]
  exact Nat.le_add_right_of_le (Nat.le_mul_of_pos_left n (Nat.pow_pos (by decide)))

/-- Digits are read onto a number exactly if the number they lead to fits, provided that nothing
fits that is beyond a number which does not. -/
theorem readDigits_eq_ok_iff {step : Int → Nat → Except NumeralError Int} (value : Nat → Int)
    (Fits : Nat → Prop) {acc : Nat}
    (grows : ∀ a d, Fits (10 * a + d) → step (value a) d = .ok (value (10 * a + d)))
    (stops : ∀ a d, ¬Fits (10 * a + d) → ∃ e, step (value a) d = .error e)
    (smaller : ∀ a b, a ≤ b → Fits b → Fits a) (fits : Fits acc) :
    readDigits 10 step (value acc) digits = .ok n ↔
      (∀ c ∈ digits, c.isDigit = true) ∧ Fits (Nat.ofDigitChars 10 digits acc) ∧
        n = value (Nat.ofDigitChars 10 digits acc) := by
  -- `acc` stands for the digits in front, whose number fits
  induction digits generalizing acc with
  | nil =>
    simp only [readDigits, Nat.ofDigitChars_nil, fits, Except.ok.injEq, List.not_mem_nil,
      false_implies, implies_true, true_and]
    exact eq_comm
  | cons c digits ih =>
    rw [readDigits, digitValue?_eq_ite, List.forall_mem_cons, Nat.ofDigitChars_cons]
    by_cases hc : c.isDigit = true
    · simp only [hc, if_true, true_and]
      -- reading stops at the first digit with which the number does not fit
      by_cases hfits : Fits (10 * acc + (c.toNat - '0'.toNat))
      · rw [grows _ _ hfits]
        exact ih hfits
      · obtain ⟨e, he⟩ := stops _ _ hfits
        rw [he]
        refine iff_of_false nofun ?_
        -- no more digits make the number smaller
        rintro ⟨-, hlarger, -⟩
        exact hfits (smaller _ _ (le_ofDigitChars digits _) hlarger)
    · simp [hc]

theorem readDigits_growUpTo (hmin : min ≤ 0) (hmax : 0 ≤ max) :
    readDigits 10 (growUpTo 10 max) 0 digits = .ok n ↔
      ((∀ c ∈ digits, c.isDigit = true) ∧ n = Nat.ofDigitChars 10 digits 0) ∧
        min ≤ n ∧ n ≤ max := by
  have grown (a d : Nat) : (a : Int) * (10 : Nat) + d = (10 * a + d : Nat) := by omega
  rw [show (0 : Int) = (0 : Nat) from rfl,
    readDigits_eq_ok_iff (fun a => (a : Int)) (fun a => (a : Int) ≤ max)]
  · constructor
    · rintro ⟨hdigits, hfits, rfl⟩
      exact ⟨⟨hdigits, rfl⟩, by omega, hfits⟩
    · rintro ⟨⟨hdigits, rfl⟩, -, hfits⟩
      exact ⟨hdigits, hfits, rfl⟩
  · intro a d hfits
    rw [growUpTo, grown, if_pos hfits]
  · intro a d hover
    exact ⟨.tooLarge, by rw [growUpTo, grown, if_neg hover]⟩
  · intro a b hle hfits
    omega
  · exact hmax

theorem readDigits_growDownTo (hmin : min ≤ 0) (hmax : 0 ≤ max) :
    readDigits 10 (growDownTo 10 min) 0 digits = .ok n ↔
      ((∀ c ∈ digits, c.isDigit = true) ∧ n = -Nat.ofDigitChars 10 digits 0) ∧
        min ≤ n ∧ n ≤ max := by
  have grown (a d : Nat) : -(a : Int) * (10 : Nat) - d = -(10 * a + d : Nat) := by omega
  rw [show (0 : Int) = -(0 : Nat) from rfl,
    readDigits_eq_ok_iff (fun a => -(a : Int)) (fun a => min ≤ -(a : Int))]
  · constructor
    · rintro ⟨hdigits, hfits, rfl⟩
      exact ⟨⟨hdigits, rfl⟩, hfits, by omega⟩
    · rintro ⟨⟨hdigits, rfl⟩, hfits, -⟩
      exact ⟨hdigits, hfits, rfl⟩
  · intro a d hfits
    rw [growDownTo, grown, if_pos hfits]
  · intro a d hover
    exact ⟨.tooSmall, by rw [growDownTo, grown, if_neg hover]⟩
  · intro a b hle hfits
    omega
  · exact hmin

theorem isDigits_iff (h : digits ≠ []) :
    IsDigits digits ↔ ∀ c ∈ digits, c.isDigit = true :=
  ⟨IsDigits.digits, fun hdigits => ⟨h, hdigits⟩⟩

/-! ## Signs -/

theorem IsDigits.ne_sign (h : IsDigits (c :: cs)) : c ≠ '+' ∧ c ≠ '-' := by
  have hc := h.digits c List.mem_cons_self
  constructor <;> (rintro rfl; revert hc; decide)

theorem numeral_plus_iff : Numeral negatives ('+' :: digits) n ↔
    IsDigits digits ∧ n = Nat.ofDigitChars 10 digits 0 := by
  constructor
  · intro h
    cases h with
    | unsigned h => exact absurd rfl h.ne_sign.1
    | plus h => exact ⟨h, rfl⟩
  · rintro ⟨h, rfl⟩
    exact .plus h

theorem numeral_minus_iff : Numeral negatives ('-' :: digits) n ↔
    negatives ∧ IsDigits digits ∧ n = -Nat.ofDigitChars 10 digits 0 := by
  constructor
  · intro h
    cases h with
    | unsigned h => exact absurd rfl h.ne_sign.2
    | minus h allowed => exact ⟨allowed, h, rfl⟩
  · rintro ⟨allowed, h, rfl⟩
    exact .minus h allowed

theorem numeral_iff_of_unsigned (hplus : ∀ rest, cs ≠ '+' :: rest)
    (hminus : ∀ rest, cs ≠ '-' :: rest) :
    Numeral negatives cs n ↔ IsDigits cs ∧ n = Nat.ofDigitChars 10 cs 0 := by
  constructor
  · intro h
    cases h with
    | unsigned h => exact ⟨h, rfl⟩
    | plus => exact absurd rfl (hplus _)
    | minus => exact absurd rfl (hminus _)
  · rintro ⟨h, rfl⟩
    exact .unsigned h

/-- A numeral has digits and a sign and nothing else. -/
theorem Numeral.forall_mem {P : Char → Prop} (h : Numeral negatives cs n)
    (digit : ∀ c, c.isDigit = true → P c) (plus : P '+') (minus : P '-') : ∀ c ∈ cs, P c := by
  cases h with
  | unsigned h => exact fun c hc => digit c (h.digits c hc)
  | plus h => exact List.forall_mem_cons.mpr ⟨plus, fun c hc => digit c (h.digits c hc)⟩
  | minus h => exact List.forall_mem_cons.mpr ⟨minus, fun c hc => digit c (h.digits c hc)⟩

/-- A number is read exactly from its numerals. -/
theorem parseInt_eq_ok_iff (hmin : min ≤ 0) (hmax : 0 ≤ max) :
    parseInt 10 min max (String.ofList cs) = .ok n ↔
      Numeral (min < 0) cs n ∧ min ≤ n ∧ n ≤ max := by
  unfold parseInt
  rw [String.toList_ofList]
  split
  -- a sign alone or no text at all is no numeral
  · refine iff_of_false nofun fun h => ?_
    have hdigits := (numeral_iff_of_unsigned (by simp) (by simp)).mp h.1
    exact hdigits.1.nonempty rfl
  · refine iff_of_false nofun fun h => ?_
    exact (numeral_plus_iff.mp h.1).1.nonempty rfl
  · refine iff_of_false nofun fun h => ?_
    exact (numeral_minus_iff.mp h.1).2.1.nonempty rfl
  · next digits hne =>
    have hdigits : digits ≠ [] := fun h => hne (by rw [h])
    rw [readDigits_growUpTo hmin hmax, numeral_plus_iff, isDigits_iff hdigits]
  · next digits hne =>
    have hdigits : digits ≠ [] := fun h => hne (by rw [h])
    rw [numeral_minus_iff, isDigits_iff hdigits]
    -- a minus sign is read only where negative numbers are
    split
    · next hnegative =>
      rw [readDigits_growDownTo hmin hmax, iff_true_intro hnegative, true_and]
    · next hnegative => exact iff_of_false nofun fun h => hnegative h.1.1
  · next hne _ _ hplus hminus =>
    rw [readDigits_growUpTo hmin hmax, numeral_iff_of_unsigned hplus hminus, isDigits_iff hne]

/-! ## Blanks -/

theorem isBlank_eq_false (hlow : 0x20 < c.toNat) (hhigh : c.toNat < 0x85) : isBlank c = false := by
  simp [isBlank, blankRanges]
  omega

/-- There is no blank in a numeral. -/
theorem Numeral.isBlank_eq_false (h : Numeral negatives cs n) : ∀ c ∈ cs, isBlank c = false := by
  refine h.forall_mem (fun c hc => ?_) (by decide) (by decide)
  obtain ⟨hlow, hhigh⟩ := toNat_le_of_isDigit hc
  exact Text.isBlank_eq_false (by omega) (by omega)

theorem Numeral.ne_nil (h : Numeral negatives cs n) : cs ≠ [] := by
  cases h with
  | unsigned h => exact h.nonempty
  | plus | minus => exact List.cons_ne_nil _ _

theorem Numeral.written (h : Numeral negatives cs n) : Written negatives cs n :=
  ⟨[], cs, [], by simp, nofun, nofun, h⟩

theorem dropWhile_isBlank_append {before : List Char} (hbefore : ∀ c ∈ before, isBlank c = true)
    (hne : cs ≠ []) (hcs : ∀ c ∈ cs, isBlank c = false) (rest : List Char) :
    (before ++ (cs ++ rest)).dropWhile isBlank = cs ++ rest := by
  rw [List.dropWhile_append_of_pos hbefore]
  cases cs with
  | nil => exact absurd rfl hne
  | cons c cs =>
    apply List.dropWhile_cons_of_neg
    rw [hcs c List.mem_cons_self]
    exact Bool.false_ne_true

/-- A text without blanks is what is left when the blanks around it are taken away. -/
theorem trim_append {before after : List Char} (hbefore : ∀ c ∈ before, isBlank c = true)
    (hafter : ∀ c ∈ after, isBlank c = true) (hne : cs ≠ [])
    (hcs : ∀ c ∈ cs, isBlank c = false) : trim (before ++ cs ++ after) = cs := by
  have hleft := dropWhile_isBlank_append hbefore hne hcs after
  have hafter' : ∀ c ∈ after.reverse, isBlank c = true := by simpa using hafter
  have hcs' : ∀ c ∈ cs.reverse, isBlank c = false := by simpa using hcs
  have hright := dropWhile_isBlank_append hafter' (by simpa using hne) hcs' []
  rw [List.append_nil, ← List.reverse_append] at hright
  rw [trim, List.append_assoc, hleft, hright, List.reverse_reverse]

theorem exists_eq_append_trim (cs : List Char) : ∃ before after, cs = before ++ trim cs ++ after ∧
    (∀ c ∈ before, isBlank c = true) ∧ ∀ c ∈ after, isBlank c = true := by
  have hleft := List.takeWhile_append_dropWhile (p := isBlank) (l := cs)
  have hright := List.takeWhile_append_dropWhile (p := isBlank)
    (l := (cs.dropWhile isBlank).reverse)
  rw [← List.reverse_eq_iff, List.reverse_append] at hright
  refine ⟨cs.takeWhile isBlank, ((cs.dropWhile isBlank).reverse.takeWhile isBlank).reverse, ?_,
    List.all_eq_true.mp List.all_takeWhile, fun c hc => ?_⟩
  · rw [trim, List.append_assoc, hright, hleft]
  · exact List.all_eq_true.mp List.all_takeWhile c (List.mem_reverse.mp hc)

/-- A number is read exactly from its numerals, however many blanks are around them. -/
theorem parseInt_trim_eq_ok_iff (hmin : min ≤ 0) (hmax : 0 ≤ max) :
    parseInt 10 min max (String.ofList (trim cs)) = .ok n ↔
      Written (min < 0) cs n ∧ min ≤ n ∧ n ≤ max := by
  rw [parseInt_eq_ok_iff hmin hmax]
  refine and_congr_left fun _ => ⟨fun h => ?_, ?_⟩
  · obtain ⟨before, after, heq, hbefore, hafter⟩ := exists_eq_append_trim cs
    exact ⟨before, trim cs, after, heq, hbefore, hafter, h⟩
  · rintro ⟨before, numeral, after, rfl, hbefore, hafter, h⟩
    rwa [trim_append hbefore hafter h.ne_nil h.isBlank_eq_false]

/-! ## Printing -/

theorem isDigits_toDigits (n : Nat) : IsDigits (Nat.toDigits 10 n) :=
  ⟨Nat.toDigits_ne_nil, fun _ hc => Nat.isDigit_of_mem_toDigits (by decide) (by decide) hc⟩

theorem numeral_toDigits (negatives : Prop) (n : Nat) :
    Numeral negatives (Nat.toDigits 10 n) n := by
  have h : Numeral negatives _ _ := .unsigned (isDigits_toDigits n)
  rwa [Nat.ofDigitChars_ten_toDigits] at h

/-- What is printed of a number is a numeral of it. -/
theorem numeral_toString (n : Int) (h : n < 0 → negatives) :
    Numeral negatives (toString n).toList n := by
  show Numeral negatives n.repr.toList n
  rw [Int.repr_eq_if]
  split
  · next hnonneg =>
    have hn := numeral_toDigits negatives n.toNat
    rwa [Int.toNat_of_nonneg hnonneg, ← Nat.toList_repr] at hn
  · next hnegative =>
    have hn := Numeral.minus (isDigits_toDigits (-n).toNat) (h (by omega))
    rw [Nat.ofDigitChars_ten_toDigits, Int.toNat_of_nonneg (by omega), Int.neg_neg,
      ← Nat.toList_repr] at hn
    rwa [String.toList_append]

end InputBridge.Text
