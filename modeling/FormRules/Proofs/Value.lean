import FormRules.Proofs.Display.Grouping
import FormRules.Proofs.Formula.Comparing
import FormRules.Proofs.Formula.Lexing

/-!
# The number that a value is

A text that is a number starts with the same one: only blanks stand behind its digits, and no exponent begins with a
blank (`leadingNumber?_of_wholeNumber?`). What is displayed for a finite number is its figures with a minus or nothing
in front, which is a number and nothing else, and reading it gives the number back but for the sign of zero
(`wholeNumber?_display`). Main statement: a value that is compared as a number is the same number in arithmetic, and
every number equals its own text (`numeric?_agrees`).
-/

namespace FormRules

namespace Binary64

open Display (Figures minus)
open Text (isBlank isDigit)
open Formula.Lexeme (isBlank_of_isDigit)

/-! ### A text that is a number starts with it -/

theorem exponentOf_of_blank {cs : List Char} (h : Text.AllBlank cs) : exponentOf cs = [] := by
  cases cs with
  | nil => rfl
  | cons c rest =>
    have hc : isBlank c = true := h c List.mem_cons_self
    have hne : ¬ (c = 'e' ∨ c = 'E') := by rintro (rfl | rfl) <;> revert hc <;> decide
    simp [exponentOf, hne]

theorem leadingNumber?_of_wholeNumber? {cs : List Char} {x : Binary64} (h : wholeNumber? cs = some x) :
    leadingNumber? cs = some x := by
  unfold wholeNumber? at h
  unfold leadingNumber?
  cases hmark : splitMark (Text.trimStart cs) with
  | mk mark body =>
    rw [hmark] at h
    obtain ⟨⟨mantissa, rest⟩, hsplit, hread⟩ := Option.bind_eq_some_iff.mp h
    obtain ⟨hblank, hread⟩ := Option.ite_none_right_eq_some.mp hread
    have hnone : exponentOf rest = [] := exponentOf_of_blank (List.all_eq_true.mp hblank)
    dsimp only at hsplit hread ⊢
    rw [hsplit, Option.bind_eq_bind, Option.bind_some, hnone, List.append_nil]
    exact hread

/-! ### The text of a number is one -/

theorem splitMantissa?_figures (f : Figures) : splitMantissa? f.chars = some (f.chars, []) := by
  have hwhole (c : Char) (hc : c ∈ f.whole) : isDigit c = true := Text.isDigit_of_ascii (f.whole_digits c hc)
  have hfraction (c : Char) (hc : c ∈ f.fraction) : isDigit c = true :=
    Text.isDigit_of_ascii (f.fraction_digits c hc)
  obtain ⟨c, rest, hcons⟩ := List.exists_cons_of_ne_nil f.whole_ne_nil
  by_cases hnone : f.fraction = []
  · have hspan : (f.whole ++ []).span isDigit = (f.whole, []) := span_digits hwhole nofun
    rw [Figures.chars, Figures.tail, if_pos hnone, splitMantissa?, hspan, hcons, List.append_nil]
  · have hpoint : ∀ c, ('.' :: f.fraction).head? = some c → isDigit c = false := by
      rintro c ⟨⟩
      decide
    have hspan : (f.whole ++ '.' :: f.fraction).span isDigit = (f.whole, '.' :: f.fraction) :=
      span_digits hwhole hpoint
    have hrest : (f.fraction ++ []).span isDigit = (f.fraction, []) := span_digits hfraction nofun
    rw [List.append_nil] at hrest
    rw [Figures.chars, Figures.tail, if_neg hnone, splitMantissa?, hspan, hcons]
    show some (c :: rest ++ '.' :: (f.fraction.span isDigit).1, (f.fraction.span isDigit).2) = _
    rw [hrest]

/-- Figures with a minus or nothing in front have the minus as their sign. -/
theorem splitMark_figures (negative : Bool) (f : Figures) :
    splitMark (Text.trimStart (minus negative ++ f.chars)) = (minus negative, f.chars) := by
  obtain ⟨c, rest, hcons⟩ := List.exists_cons_of_ne_nil f.whole_ne_nil
  have hc : c.isDigit = true := f.whole_digits c (hcons ▸ List.mem_cons_self)
  have hchars : f.chars = c :: (rest ++ f.tail) := by rw [Figures.chars, hcons, List.cons_append]
  cases negative with
  | true =>
    have hhead : ∀ d, ('-' :: f.chars).head? = some d → isBlank d = false := by
      rintro d ⟨⟩
      decide
    show splitMark (Text.trimStart ('-' :: f.chars)) = _
    rw [Text.trimStart_of_head hhead]
    rfl
  | false =>
    have hhead : ∀ d, f.chars.head? = some d → isBlank d = false := by
      rw [hchars]
      rintro d ⟨⟩
      exact isBlank_of_isDigit hc
    show splitMark (Text.trimStart f.chars) = ([], f.chars)
    rw [Text.trimStart_of_head hhead, hchars, splitMark,
      if_neg (not_or.mpr ⟨Display.ne_of_isDigit hc rfl, Display.ne_of_isDigit hc rfl⟩)]

/-- Figures are a number and nothing else. -/
theorem wholeNumber?_figures (negative : Bool) (f : Figures) :
    wholeNumber? (minus negative ++ f.chars) = read? (minus negative ++ f.chars) := by
  rw [wholeNumber?, splitMark_figures]
  dsimp only
  rw [splitMantissa?_figures]
  rfl

/-- The number itself, but zero for a negative zero. -/
def withoutZeroSign (x : Binary64) : Binary64 := if x.isZero then .zero false else x

/-- A whole number is read back from its digits. -/
theorem read?_whole {negative : Bool} {rank : Fin rankCount} (hpos : 0 < rank.val)
    (hwhole : magnitude rank % unitsPerOne = 0) :
    read? (minus negative ++ Nat.toDigits 10 (magnitude rank / unitsPerOne)) = some (.finite negative rank) := by
  obtain ⟨c, rest, hcons⟩ := List.exists_cons_of_ne_nil
    (Nat.toDigits_ne_nil (n := magnitude rank / unitsPerOne) (b := 10))
  have hdigits (d : Char) (hd : d ∈ c :: rest) : d.isDigit = true := isDigit_of_mem_toDigits (hcons ▸ hd)
  have hvalue : Nat.ofDigitChars 10 (c :: rest) 0 = magnitude rank / unitsPerOne := by
    rw [← hcons, Nat.ofDigitChars_ten_toDigits]
  have hunsigned := Decimal.readUnsigned?_whole (List.cons_ne_nil c rest) hdigits
  have hback : ReadsBack rank ⟨magnitude rank / unitsPerOne, 0⟩ := by
    have hnumerator : (Decimal.mk (magnitude rank / unitsPerOne) 0).numerator = magnitude rank * 1 := by
      rw [Decimal.numerator, Int.toNat_zero, Nat.pow_zero, Nat.mul_one, Nat.mul_one,
        Nat.div_mul_cancel (Nat.dvd_of_mod_eq_zero hwhole)]
    rw [ReadsBack, hnumerator]
    exact nearest_exact Nat.one_pos
  rw [hvalue] at hunsigned
  rw [hcons]
  exact (read?_signed negative (hdigits c List.mem_cons_self) hunsigned).trans
    (congrArg some (hback.ofDecimal_eq negative hpos rank.isLt))

theorem read?_display (x : Binary64) : read? x.display.toList = some x.withoutZeroSign := by
  cases x with
  | nan => decide +kernel
  | infinite negative => cases negative <;> decide +kernel
  | finite negative rank =>
    rcases Nat.eq_zero_or_pos rank.val with hzero | hpos
    · obtain rfl : rank = ⟨0, by decide⟩ := Fin.ext hzero
      cases negative <;> decide +kernel
    · have hsame : (finite negative rank).withoutZeroSign = finite negative rank :=
        if_neg (by simpa [isZero] using Nat.ne_of_gt hpos)
      rw [hsame, display]
      split
      · next hwhole =>
        have hne : magnitude rank / unitsPerOne ≠ 0 := by
          intro hdiv
          have hmagnitude := Nat.div_add_mod (magnitude rank) unitsPerOne
          rw [hdiv, hwhole.1, Nat.mul_zero] at hmagnitude
          exact Nat.ne_of_gt (magnitude_pos hpos) hmagnitude.symm
        rw [toList_toString_signed, decide_eq_true hne, Bool.and_true]
        exact read?_whole hpos hwhole.1
      · exact read?_plain _

/-- The text of a number in a form is a number, just if the number is finite. -/
theorem wholeNumber?_display (x : Binary64) :
    wholeNumber? x.display.toList = if x.isFinite then some x.withoutZeroSign else none := by
  cases x with
  | nan => decide +kernel
  | infinite negative => cases negative <;> decide +kernel
  | finite negative rank =>
    obtain ⟨f, hf⟩ := exists_figures_display rank
    have hfinite : (finite negative rank).isFinite = true := rfl
    rw [if_pos hfinite, ← read?_display, hf, wholeNumber?_figures]

/-- A number equals itself without the sign of zero. -/
theorem compare?_withoutZeroSign {x : Binary64} (h : x ≠ nan) : x.compare? x.withoutZeroSign = some .eq := by
  unfold withoutZeroSign
  split
  · next hzero =>
    cases x with
    | nan => cases hzero
    | infinite negative => cases hzero
    | finite negative rank =>
      obtain rfl : rank = ⟨0, by decide⟩ := Fin.ext (of_decide_eq_true hzero)
      cases negative <;> rfl
  · exact compare?_self_iff.mpr h

end Binary64

namespace Value

open Formula (compareValues compareValues_numbers compareValues_texts)

theorem toNumber_of_numeric? {v : Value} {x : Binary64} (h : v.numeric? = some x) : v.toNumber = x := by
  cases v with
  | null => cases h
  | boolean b => cases h
  | number y => exact Option.some.inj h
  | text s => rw [toNumber, Binary64.leadingNumber?_of_wholeNumber? h, Option.getD_some]

/-- A number and its text are equal, be it finite or not. -/
theorem compareValues_toText (x : Binary64) : compareValues (number x) (text (number x).toText) = some .eq := by
  have hnumeric : (text (number x).toText).numeric? = if x.isFinite then some x.withoutZeroSign else none :=
    x.wholeNumber?_display
  cases hfinite : x.isFinite with
  | true =>
    have hne : x ≠ .nan := by
      rintro rfl
      cases hfinite
    rw [hfinite, if_pos rfl] at hnumeric
    rw [compareValues_numbers rfl hnumeric, Binary64.compare?_withoutZeroSign hne]
  | false =>
    rw [hfinite, if_neg Bool.false_ne_true] at hnumeric
    rw [compareValues_texts (.inr hnumeric)]
    exact congrArg some (Std.compare_self)

/-- A value that is compared as a number counts as the same number in arithmetic. The text of a finite number is
compared as that number, a negative zero as zero, and that of any other number is compared as a text; every number
equals its text. -/
theorem numeric?_agrees :
    (∀ (v : Value) (x : Binary64), v.numeric? = some x → v.toNumber = x) ∧
      ∀ x : Binary64,
        (text (number x).toText).numeric? = (if x.isFinite then some x.withoutZeroSign else none) ∧
          compareValues (number x) (text (number x).toText) = some .eq :=
  ⟨fun _ _ => toNumber_of_numeric?, fun x => ⟨x.wholeNumber?_display, compareValues_toText x⟩⟩

/-- A number between blanks of two kinds, and the text of the same number; a negative zero. -/
theorem numeric?_agrees_padded :
    let x := Binary64.ofDecimal true ⟨25, -1⟩
    (text "\u3000-2.50\u00a0").numeric? = some x ∧ (text "\u3000-2.50\u00a0").toNumber = x ∧
      (number x).toText = "-2.5" ∧ (text (number x).toText).numeric? = some x ∧
      compareValues (number (.zero true)) (text (number (.zero true)).toText) = some .eq := by
  intro x
  have hnumeric : (text "\u3000-2.50\u00a0").numeric? = some x := by decide +kernel
  have hplain : x.isFinite = true ∧ x.withoutZeroSign = x := by decide +kernel
  have htext := (numeric?_agrees.2 x).1
  rw [if_pos hplain.1, hplain.2] at htext
  exact ⟨hnumeric, numeric?_agrees.1 _ _ hnumeric, by decide +kernel, htext, (numeric?_agrees.2 (.zero true)).2⟩

end Value

end FormRules
