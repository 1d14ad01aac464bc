import FormRules.Display
import FormRules.Proofs.Json.Scalars
import FormRules.Proofs.Number.Decimal96
import FormRules.Proofs.Number.RoundTrip

/-!
# Numbers as they are shown

A finite number is shown by its figures with a minus or nothing in front, whether it has its own places or those that
the options ask for (`exists_figures`). The figures have to do with the magnitude alone. A minus is shown for every
negative number but for two: zero with its own places, and a number that rounding makes zero.
-/

namespace FormRules

namespace Display

/-- The digits of a number without its sign: some before the point, and some behind it if there is a point. -/
structure Figures where
  whole : List Char
  fraction : List Char
  whole_ne_nil : whole ≠ []
  whole_digits : ∀ c ∈ whole, c.isDigit = true
  fraction_digits : ∀ c ∈ fraction, c.isDigit = true

/-- What stands from the point on. -/
def Figures.tail (f : Figures) : List Char := if f.fraction = [] then [] else '.' :: f.fraction

def Figures.chars (f : Figures) : List Char := f.whole ++ f.tail

/-- A minus, or nothing. -/
def minus (negative : Bool) : List Char := if negative then ['-'] else []

end Display

namespace Binary64

open Display (Figures minus)

theorem isDigit_of_mem_toDigits {n : Nat} {c : Char} (h : c ∈ Nat.toDigits 10 n) : c.isDigit = true :=
  Nat.isDigit_of_mem_toDigits (by decide) (Nat.le_refl _) h

theorem isDigit_of_mem_zeros {n : Nat} {c : Char} (h : c ∈ List.replicate n '0') : c.isDigit = true := by
  rw [List.eq_of_mem_replicate h]
  rfl

theorem exists_figures_positional (digits : Nat) (places : Int) :
    ∃ f : Figures, (positional (toString digits) places).toList = f.chars := by
  have hlist : (toString digits).toList = Nat.toDigits 10 digits := by
    rw [Nat.toString_eq_ofList_toDigits, String.toList_ofList]
  have hdigits (c : Char) (hc : c ∈ Nat.toDigits 10 digits) : c.isDigit = true := isDigit_of_mem_toDigits hc
  rw [toList_positional, hlist]
  split
  · refine ⟨⟨['0'], List.replicate places.natAbs '0' ++ Nat.toDigits 10 digits, by simp, by simp, ?_⟩, ?_⟩
    · intro c hc
      exact (List.mem_append.mp hc).elim isDigit_of_mem_zeros (hdigits c)
    · simp [Figures.chars, Figures.tail, Nat.toDigits_ne_nil]
  · next hpos =>
    split
    · next hlt =>
      refine ⟨⟨(Nat.toDigits 10 digits).take places.toNat, (Nat.toDigits 10 digits).drop places.toNat, ?_,
        fun c hc => hdigits c (List.mem_of_mem_take hc), fun c hc => hdigits c (List.mem_of_mem_drop hc)⟩, ?_⟩
      · rw [ne_eq, List.take_eq_nil_iff, not_or]
        exact ⟨by omega, Nat.toDigits_ne_nil⟩
      · have hfraction : (Nat.toDigits 10 digits).drop places.toNat ≠ [] := by
          rw [ne_eq, List.drop_eq_nil_iff]
          omega
        simp only [Figures.chars, Figures.tail, hfraction, ↓reduceIte]
    · refine ⟨⟨Nat.toDigits 10 digits ++ List.replicate (places.toNat - (Nat.toDigits 10 digits).length) '0', [],
        List.append_ne_nil_of_left_ne_nil Nat.toDigits_ne_nil _, ?_, by simp⟩, ?_⟩
      · intro c hc
        exact (List.mem_append.mp hc).elim (hdigits c) isDigit_of_mem_zeros
      · simp [Figures.chars, Figures.tail]

theorem magnitude_pos {rank : Nat} (h : 0 < rank) : 0 < magnitude rank :=
  Nat.lt_of_lt_of_le (magnitude_lt_succ 0) (magnitude_mono h)

theorem toList_toString_signed (negative : Bool) (n : Nat) :
    (toString (signed negative n)).toList = minus (negative && decide (n ≠ 0)) ++ Nat.toDigits 10 n := by
  have habs : (signed negative n).natAbs = n := by cases negative <;> simp [signed]
  have hneg : signed negative n < 0 ↔ (negative && decide (n ≠ 0)) = true := by
    cases negative
    · simp [signed]
    · simp [signed, Nat.pos_iff_ne_zero]
  rw [Json.toList_toString_int, habs]
  simp only [hneg, minus]
  split <;> rfl

/-- The text of a finite number in a form: only zero loses its sign. -/
theorem exists_figures_display (rank : Fin rankCount) : ∃ f : Figures, ∀ negative,
    (display (.finite negative rank)).toList = minus (negative && decide (rank.val ≠ 0)) ++ f.chars := by
  by_cases hwhole : magnitude rank % unitsPerOne = 0 ∧ magnitude rank / unitsPerOne < Nat.pow 10 15
  · have hzero : magnitude rank / unitsPerOne = 0 ↔ rank.val = 0 := by
      constructor
      · intro hdiv
        have hmagnitude : magnitude rank = 0 := by
          rw [← Nat.div_add_mod (magnitude rank) unitsPerOne, hdiv, hwhole.1]
          rfl
        exact Nat.eq_zero_of_not_pos fun hpos => Nat.ne_of_gt (magnitude_pos hpos) hmagnitude
      · intro hrank
        rw [hrank]
        decide
    refine ⟨⟨Nat.toDigits 10 (magnitude rank / unitsPerOne), [], Nat.toDigits_ne_nil,
      fun c => isDigit_of_mem_toDigits, by simp⟩, fun negative => ?_⟩
    rw [display, if_pos hwhole, toList_toString_signed]
    simp only [ne_eq, hzero, Figures.chars, Figures.tail, ↓reduceIte, List.append_nil]
  · have hpos : 0 < rank.val := by
      refine Nat.pos_of_ne_zero fun hrank => hwhole ?_
      rw [hrank]
      decide
    obtain ⟨f, hf⟩ := exists_figures_positional (shortest .up rank).digits
      ((toString (shortest .up rank).digits).length + (shortest .up rank).exponent)
    refine ⟨f, fun negative => ?_⟩
    rw [display, if_neg hwhole, toList_plain negative hpos, hf, decide_eq_true (Nat.ne_of_gt hpos), Bool.and_true]
    rfl

end Binary64

namespace Decimal96

open Display (Figures minus)

theorem exists_figures_text (coefficient scale : Nat) : ∃ f : Figures, ∀ negative,
    (text ⟨negative, coefficient, scale⟩).toList = minus negative ++ f.chars := by
  let digits := List.replicate (scale + 1 - (Nat.toDigits 10 coefficient).length) '0' ++ Nat.toDigits 10 coefficient
  have hdigits (c : Char) (hc : c ∈ digits) : c.isDigit = true :=
    (List.mem_append.mp hc).elim Binary64.isDigit_of_mem_zeros Binary64.isDigit_of_mem_toDigits
  have hlength : scale < digits.length := by
    rw [List.length_append, List.length_replicate]
    omega
  have hwhole : digits.take (digits.length - scale) ≠ [] := by
    rw [ne_eq, List.take_eq_nil_iff, not_or]
    exact ⟨by omega, List.ne_nil_of_length_pos (by omega)⟩
  refine ⟨⟨digits.take (digits.length - scale), digits.drop (digits.length - scale), hwhole,
    fun c hc => hdigits c (List.mem_of_mem_take hc), fun c hc => hdigits c (List.mem_of_mem_drop hc)⟩,
    fun negative => ?_⟩
  have htext : text ⟨negative, coefficient, scale⟩ =
      (if negative then "-" else "") ++ String.ofList (digits.take (digits.length - scale)) ++
        if (digits.drop (digits.length - scale)).isEmpty then ""
        else "." ++ String.ofList (digits.drop (digits.length - scale)) := rfl
  rw [htext, String.toList_append, String.toList_append, String.toList_ofList, List.append_assoc]
  simp only [Figures.chars, Figures.tail, List.isEmpty_iff, minus]
  split <;> split <;> simp

theorem exists_figures_rounded (d : Decimal96) (places : Nat) : ∃ f : Figures, ∀ negative,
    ({ d with negative }.rounded places |>.rescaled places).text.toList =
      minus (negative && decide (¬ d.RoundsToZero places)) ++ f.chars := by
  obtain ⟨f, hf⟩ := exists_figures_text ((d.rounded places).rescaled places).coefficient
    ((d.rounded places).rescaled places).scale
  refine ⟨f, fun negative => ?_⟩
  rw [rounded_sign, rescaled_sign, hf]

end Decimal96

namespace Display

variable {options : FormatOptions} {value : Value} {x : Binary64}

/-- Rounding to the places that the options ask for makes zero of a number. -/
def RoundsToZero (options : FormatOptions) (x : Binary64) : Prop :=
  ∃ places d, options.places? = some places ∧ Decimal96.ofBinary64? x = some d ∧ d.RoundsToZero places

theorem numberText_own (h : options.places? = none ∨ Decimal96.ofBinary64? x = none) :
    numberText x { options with thousands := false } = x.display := by
  have hplaces : { options with thousands := false }.places? = options.places? := rfl
  rw [numberText, hplaces]
  rcases h with hnone | hnone
  · rw [hnone]
    rfl
  · rw [hnone]
    cases options.places? <;> rfl

theorem numberText_places {places : Nat} {d : Decimal96} (hplaces : options.places? = some places)
    (hd : Decimal96.ofBinary64? x = some d) :
    numberText x { options with thousands := false } = ((d.rounded places).rescaled places).text := by
  have hsame : { options with thousands := false }.places? = options.places? := rfl
  rw [numberText, hsame, hplaces, hd]
  rfl

/-- A finite number without its thousands grouped is its figures with a minus or nothing in front. A negative number
other than zero has a minus just if it is not rounded to zero. -/
theorem exists_figures (options : FormatOptions) (rank : Fin rankCount) : ∃ (f : Figures) (signs : Bool),
    (∀ negative, (numberText (.finite negative rank) { options with thousands := false }).toList =
      minus (negative && signs) ++ f.chars) ∧
      (0 < rank.val → (signs = true ↔ ¬ RoundsToZero options (.finite false rank))) := by
  by_cases hown : options.places? = none ∨ Decimal96.ofBinary64? (.finite false rank) = none
  · obtain ⟨f, hf⟩ := Binary64.exists_figures_display rank
    have hsigned (negative : Bool) : options.places? = none ∨ Decimal96.ofBinary64? (.finite negative rank) = none :=
      hown.imp_right fun hnone => by rw [Decimal96.ofBinary64?_sign, hnone, Option.map_none]
    have hkept : ¬ RoundsToZero options (.finite false rank) := by
      rintro ⟨places, d, hplaces, hd, -⟩
      rw [hplaces, hd] at hown
      simp at hown
    refine ⟨f, rank.val ≠ 0, fun negative => ?_, fun hpos => by simp [hkept, Nat.ne_of_gt hpos]⟩
    rw [numberText_own (hsigned negative)]
    exact hf negative
  · obtain ⟨hplaces, hd⟩ := not_or.mp hown
    obtain ⟨places, hplaces⟩ := Option.ne_none_iff_exists'.mp hplaces
    obtain ⟨d, hd⟩ := Option.ne_none_iff_exists'.mp hd
    obtain ⟨f, hf⟩ := d.exists_figures_rounded places
    refine ⟨f, ¬ d.RoundsToZero places, fun negative => ?_, fun _ => by simp [RoundsToZero, hplaces, hd]⟩
    have hsigned : Decimal96.ofBinary64? (.finite negative rank) = some { d with negative } := by
      rw [Decimal96.ofBinary64?_sign, hd, Option.map_some]
    rw [numberText_places hplaces hsigned]
    exact hf negative

end Display

end FormRules
