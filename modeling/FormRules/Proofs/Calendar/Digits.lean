import FormRules.Proofs.Calendar.Days

/-!
# Digits of fixed width

Texts are ordered by code point. Of two texts of digits that have the same length, the order is that of the
numbers they stand for, so a number with zeros in front (`Date.padded`) stands in a text for its own order
(`compare_padded`), and what follows decides where the numbers are equal.
-/

namespace FormRules

/-! ### The order of texts -/

theorem compare_eq_compareOfLessAndEq (xs ys : List Char) : compare xs ys = compareOfLessAndEq xs ys := by
  induction xs generalizing ys with
  | nil => cases ys <;> simp [compareOfLessAndEq]
  | cons x xs ih =>
    cases ys with
    | nil => simp [compareOfLessAndEq]
    | cons y ys =>
      have hchar : compare x y = compareOfLessAndEq x y := rfl
      rw [List.compare_cons_cons, ih, hchar]
      simp only [compareOfLessAndEq, List.cons_lt_cons_iff, List.cons.injEq]
      by_cases hlt : x < y
      · simp [hlt]
      · by_cases heq : x = y <;> simp [hlt, heq]

theorem compare_toList (s t : String) : compare s t = compare s.toList t.toList := by
  have htext : compare s t = compareOfLessAndEq s t := rfl
  rw [htext, compare_eq_compareOfLessAndEq]
  simp only [compareOfLessAndEq, String.lt_iff, String.toList_inj]

theorem compare_append {xs ys : List Char} (h : xs.length = ys.length) (xs' ys' : List Char) :
    compare (xs ++ xs') (ys ++ ys') = (compare xs ys).then (compare xs' ys') := by
  induction xs generalizing ys with
  | nil => simp [List.length_eq_zero_iff.mp h.symm]
  | cons x xs ih =>
    obtain ⟨y, ys, rfl⟩ := List.exists_cons_of_length_eq_add_one h.symm
    simp only [List.length_cons, Nat.add_right_cancel_iff] at h
    simp only [List.cons_append, List.compare_cons_cons, ih h, Ordering.then_assoc]

/-! ### Digits -/

theorem toNat_of_isDigit {c : Char} (h : c.isDigit = true) : 48 ≤ c.toNat ∧ c.toNat ≤ 57 := Char.isDigit_iff_toNat.mp h

/-- The order of digits is that of what they count. -/
theorem compare_digit {c d : Char} (hc : c.isDigit = true) (hd : d.isDigit = true) :
    compare (c.toNat - '0'.toNat) (d.toNat - '0'.toNat) = compare c d := by
  have hchar : compare c d = compareOfLessAndEq c d := rfl
  have hlt : c < d ↔ c.toNat < d.toNat := Iff.rfl
  have hc := toNat_of_isDigit hc
  have hd := toNat_of_isDigit hd
  simp only [hchar, Nat.compare_eq_ite_lt, compareOfLessAndEq, hlt, ← Char.toNat_inj, Char.reduceToNat]
  split_ifs <;> first | rfl | omega

/-- Digits behind two numbers: the numbers decide unless they are equal. -/
theorem compare_ofDigitChars {xs ys : List Char} (h : xs.length = ys.length) (hxs : ∀ c ∈ xs, c.isDigit = true)
    (hys : ∀ c ∈ ys, c.isDigit = true) (m n : Nat) :
    compare (Nat.ofDigitChars 10 xs m) (Nat.ofDigitChars 10 ys n) = (compare m n).then (compare xs ys) := by
  induction xs generalizing ys m n with
  | nil => simp [List.length_eq_zero_iff.mp h.symm]
  | cons x xs ih =>
    obtain ⟨y, ys, rfl⟩ := List.exists_cons_of_length_eq_add_one h.symm
    obtain ⟨hx, hxs⟩ := List.forall_mem_cons.mp hxs
    obtain ⟨hy, hys⟩ := List.forall_mem_cons.mp hys
    have hcompound : compare (10 * m + (x.toNat - '0'.toNat)) (10 * n + (y.toNat - '0'.toNat)) =
        (compare m n).then (compare x y) := by
      have hcast (m k : Nat) : ((10 * m + k : Nat) : Int) = m * 10 + k := by omega
      have hx' := toNat_of_isDigit hx
      have hy' := toNat_of_isDigit hy
      rw [← compare_natCast, hcast, hcast, compare_compound (by omega) (by omega), compare_natCast, compare_natCast,
        compare_digit hx hy]
    rw [Nat.ofDigitChars_cons, Nat.ofDigitChars_cons, ih (Nat.succ.inj h) hxs hys, hcompound, Ordering.then_assoc,
      List.compare_cons_cons]

/-! ### Numbers with zeros in front -/

namespace Date

theorem toList_padded (width n : Nat) :
    (padded width n).toList = List.replicate (width - (Nat.toDigits 10 n).length) '0' ++ Nat.toDigits 10 n := by
  rw [padded, String.toList_ofList]

theorem isDigit_of_mem_padded {width n : Nat} {c : Char} (h : c ∈ (padded width n).toList) : c.isDigit = true := by
  rw [toList_padded, List.mem_append] at h
  rcases h with hzero | hdigit
  · rw [List.eq_of_mem_replicate hzero]
    rfl
  · exact Nat.isDigit_of_mem_toDigits (by decide) (by decide) hdigit

theorem length_padded {width n : Nat} (hwidth : 0 < width) (h : n < 10 ^ width) :
    (padded width n).toList.length = width := by
  have hle := (Nat.length_toDigits_le_iff (by decide) hwidth).mpr h
  rw [toList_padded, List.length_append, List.length_replicate, Nat.sub_add_cancel hle]

theorem ofDigitChars_padded (width n : Nat) : Nat.ofDigitChars 10 (padded width n).toList 0 = n := by
  rw [toList_padded, Nat.ofDigitChars_append, Nat.ofDigitChars_replicate_zero, Nat.mul_zero,
    Nat.ofDigitChars_ten_toDigits]

/-- The order of texts that begin with numbers of the same width. -/
theorem compare_padded {width m n : Nat} (hwidth : 0 < width) (hm : m < 10 ^ width) (hn : n < 10 ^ width)
    (xs ys : List Char) :
    compare ((padded width m).toList ++ xs) ((padded width n).toList ++ ys) =
      (compare m n).then (compare xs ys) := by
  have hlength : (padded width m).toList.length = (padded width n).toList.length := by
    rw [length_padded hwidth hm, length_padded hwidth hn]
  have hdigits := compare_ofDigitChars hlength (fun _ => isDigit_of_mem_padded) (fun _ => isDigit_of_mem_padded) 0 0
  rw [ofDigitChars_padded, ofDigitChars_padded, Nat.compare_eq_eq.mpr rfl, Ordering.eq_then] at hdigits
  rw [compare_append hlength, hdigits]

end Date

end FormRules
