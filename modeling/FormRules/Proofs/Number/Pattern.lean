import Mathlib.Data.List.TakeDrop
import Mathlib.Data.List.TakeWhile
import FormRules.Number.Pattern

/-!
# What the patterns find

The digits that a pattern finds start with a digit or a point (`splitMantissa?_head`), so what is read is not one of
the words for numbers that are not finite, and a text is never `nan` (`wholeNumber?_ne_nan`).
-/

namespace FormRules.Binary64

open Text (isDigit)

theorem ofUnits_ne_nan (negative : Bool) (num den : Nat) : ofUnits negative num den ≠ nan := by
  unfold ofUnits
  dsimp only
  split <;> simp

theorem ofDecimal_ne_nan (negative : Bool) (d : Decimal) : ofDecimal negative d ≠ nan := by
  unfold ofDecimal
  dsimp only
  split
  · simp [zero]
  split
  · simp
  split
  · exact ofUnits_ne_nan _ _ _
  · exact ofUnits_ne_nan _ _ _

/-- Only the word for it is read as `nan`. -/
theorem map_toLower_of_read? {cs : List Char} (h : read? cs = some nan) :
    (Decimal.splitSign cs).2.map Char.toLower = ['n', 'a', 'n'] := by
  unfold read? at h
  dsimp only at h
  split at h
  · cases h
  split at h
  · next hword =>
    have hchars := congrArg String.toList hword
    rwa [String.toList_ofList] at hchars
  · obtain ⟨d, -, hd⟩ := Option.map_eq_some_iff.mp h
    exact absurd hd (ofDecimal_ne_nan _ d)

theorem span_digits {digits rest : List Char} (hdigits : ∀ c ∈ digits, isDigit c = true)
    (hrest : ∀ c, rest.head? = some c → isDigit c = false) : (digits ++ rest).span isDigit = (digits, rest) := by
  rw [List.span_eq_takeWhile_dropWhile, List.takeWhile_append_of_pos hdigits, List.dropWhile_append_of_pos hdigits]
  cases rest with
  | nil => rw [List.takeWhile_nil, List.dropWhile_nil, List.append_nil]
  | cons c rest =>
    have hc : ¬ isDigit c = true := by simp [hrest c rfl]
    rw [List.takeWhile_cons_of_neg hc, List.dropWhile_cons_of_neg hc, List.append_nil]

/-- The digits that are found start with a digit or a point. -/
theorem splitMantissa?_head {cs mantissa rest : List Char} (h : splitMantissa? cs = some (mantissa, rest)) :
    ∃ c tail, mantissa = c :: tail ∧ (isDigit c = true ∨ c = '.') := by
  have hwhole : ∀ more, cs.takeWhile isDigit ≠ [] →
      ∃ c tail, cs.takeWhile isDigit ++ more = c :: tail ∧ (isDigit c = true ∨ c = '.') := by
    intro more hne
    obtain ⟨c, tail, hc⟩ := List.exists_cons_of_ne_nil hne
    have hmem : c ∈ cs.takeWhile isDigit := hc ▸ List.mem_cons_self
    exact ⟨c, tail ++ more, by rw [hc]; rfl, .inl (List.mem_takeWhile_imp hmem)⟩
  unfold splitMantissa? at h
  rw [List.span_eq_takeWhile_dropWhile] at h
  split at h
  · split at h
    · cases h
    · cases h
      exact ⟨'.', _, rfl, .inr rfl⟩
  · cases h
  · next whole after hne heq =>
    obtain ⟨rfl, -⟩ := Prod.mk.inj heq
    cases h
    exact hwhole _ hne
  · next whole after hne _ heq =>
    obtain ⟨rfl, -⟩ := Prod.mk.inj heq
    cases h
    simpa using hwhole [] hne

theorem toLower_ne_n {c : Char} (h : isDigit c = true ∨ c = '.') : c.toLower ≠ 'n' := by
  intro hlower
  have hc : c = 'n' ∨ c = 'N' := by
    unfold Char.toLower at hlower
    split at hlower
    · have hval : c.val + 32 = 110 := congrArg Char.val hlower
      have hsub : c.val = 110 - 32 := by rw [← hval, UInt32.add_sub_cancel]
      exact .inr (Char.ext hsub)
    · exact .inl hlower
  rcases hc with rfl | rfl <;> revert h <;> decide

/-- A sign that is written in front of digits is split off again. -/
theorem splitSign_mark {cs mark body tail : List Char} {c : Char} (hmark : splitMark cs = (mark, body))
    (hc : isDigit c = true ∨ c = '.') : (Decimal.splitSign (mark ++ c :: tail)).2 = c :: tail := by
  have hne : ∀ sign ∈ ['-', '+'], c ≠ sign := by
    rintro sign hsign rfl
    simp only [List.mem_cons, List.not_mem_nil, or_false] at hsign
    rcases hsign with rfl | rfl <;> revert hc <;> decide
  have hsame : (Decimal.splitSign (c :: tail)).2 = c :: tail := by
    unfold Decimal.splitSign
    split
    · next heq => exact absurd (List.cons.inj heq).1 (hne _ (by decide))
    · next heq => exact absurd (List.cons.inj heq).1 (hne _ (by decide))
    · rfl
  unfold splitMark at hmark
  split at hmark
  · split at hmark
    · next hs =>
      cases hmark
      rcases hs with rfl | rfl <;> rfl
    · cases hmark
      exact hsame
  · cases hmark
    exact hsame

/-- No text is `nan`. -/
theorem wholeNumber?_ne_nan (cs : List Char) : wholeNumber? cs ≠ some nan := by
  intro h
  unfold wholeNumber? at h
  cases hmark : splitMark (Text.trimStart cs) with
  | mk mark body =>
    rw [hmark] at h
    obtain ⟨⟨mantissa, rest⟩, hsplit, hread⟩ := Option.bind_eq_some_iff.mp h
    obtain ⟨c, tail, rfl, hc⟩ := splitMantissa?_head hsplit
    obtain ⟨-, hnan⟩ := Option.ite_none_right_eq_some.mp hread
    have hword := map_toLower_of_read? hnan
    rw [splitSign_mark hmark hc, List.map_cons] at hword
    exact toLower_ne_n hc (List.cons.inj hword).1

end FormRules.Binary64
