import FormRules.Json.Number
import FormRules.Json.Reader
import Mathlib.Data.List.TakeWhile

/-!
# Reading strings and whole numbers of documents back

A character that was escaped is read as itself whatever follows it (`readString_escape`), so a string is read
back with all its characters (`readText_content`). The text of a whole number is read to its end if nothing
follows that would go on with it (`readNumber_int`), and it stands for the number (`int?_int`).
-/

namespace FormRules.Json

/-! ### Strings -/

theorem hexValue?_hexDigit (n : Nat) : hexValue? (hexDigit n) = some (n % 16) := by
  have hall : ∀ d < 16, hexValue? (Nat.digitChar d) = some d := by decide
  exact hall (n % 16) (Nat.mod_lt n (by decide))

theorem hexUnit?_control {n : Nat} (h : n < 0x20) : hexUnit? '0' '0' (hexDigit (n / 16)) (hexDigit n) = some n := by
  have hzero : hexValue? '0' = some 0 := rfl
  have hsum : (n / 16 % 16) * 16 + n % 16 = n := by omega
  simp [hexUnit?, hzero, hexValue?_hexDigit, hsum]

theorem readString_backslash {e c : Char} (he : e ≠ 'u') (hc : unescape? e = some c) (rest : List Char) :
    readString ('\\' :: e :: rest) = (readString rest).map fun (content, after) => (content.map (c :: ·), after) := by
  rw [readString]
  · rw [hc]
    cases readString rest <;> rfl
  all_goals simp [he]

theorem readString_unit {a b c d : Char} {unit : Nat} (hunit : hexUnit? a b c d = some unit) (hlow : unit < 0xD800)
    (rest : List Char) : readString ('\\' :: 'u' :: a :: b :: c :: d :: rest) =
    (readString rest).map fun (content, after) => (content.map (Char.ofNat unit :: ·), after) := by
  have hhigh : isHighSurrogate unit = false := by simp [isHighSurrogate]; omega
  have hnot : isLowSurrogate unit = false := by simp [isLowSurrogate]; omega
  rw [readString.eq_def]
  split
  case h_3 a' b' c' d' e' f' g' h' rest' heq =>
    cases heq
    simp only [hunit, hhigh, hnot, Bool.false_eq_true, ↓reduceIte, Option.bind_eq_bind, Option.bind_some]
    cases readString ('\\' :: 'u' :: e' :: f' :: g' :: h' :: rest') <;> rfl
  case h_4 a' b' c' d' _ _ heq =>
    cases heq
    simp only [hunit, hhigh, hnot, Option.bind_eq_bind, Option.bind_some]
    cases readString rest <;> rfl
  case h_5 hno heq =>
    cases heq
    exact (hno _ _ _ _ _ rfl rfl).elim
  case h_6 hno heq =>
    cases heq
    exact (hno _ _ rfl rfl).elim
  all_goals simp at *

theorem readString_plain {c : Char} (hquote : c ≠ '"') (hslash : c ≠ '\\') (hc : 0x20 ≤ c.toNat)
    (rest : List Char) : readString (c :: rest) =
    (readString rest).map fun (content, after) => (content.map (c :: ·), after) := by
  rw [readString]
  · simp only [hslash, Nat.not_lt.mpr hc, or_self, ↓reduceIte, Option.map_eq_bind]
    rfl
  all_goals simp [hquote, hslash]

theorem readString_escape (c : Char) (rest : List Char) : readString (escape c ++ rest) =
    (readString rest).map fun (content, after) => (content.map (c :: ·), after) := by
  unfold escape
  split_ifs with hquote hslash hline hreturn htab hback hfeed hcontrol
  · subst hquote
    exact readString_backslash (by decide) rfl rest
  · subst hslash
    exact readString_backslash (by decide) rfl rest
  · subst hline
    exact readString_backslash (by decide) rfl rest
  · subst hreturn
    exact readString_backslash (by decide) rfl rest
  · subst htab
    exact readString_backslash (by decide) rfl rest
  · subst hback
    exact readString_backslash (by decide) rfl rest
  · subst hfeed
    exact readString_backslash (by decide) rfl rest
  · have hread := readString_unit (hexUnit?_control hcontrol) (by omega) rest
    rwa [Char.ofNat_toNat] at hread
  · exact readString_plain hquote hslash (by omega) rest

theorem readText_content (s : String) (rest : List Char) :
    readText (s.toList.flatMap escape ++ '"' :: rest) = some (some s, rest) := by
  have hread : ∀ cs : List Char, readString (cs.flatMap escape ++ '"' :: rest) = some (some cs, rest) := by
    intro cs
    induction cs with
    | nil => rw [List.flatMap_nil, List.nil_append, readString]
    | cons c cs ih =>
      rw [List.flatMap_cons, List.append_assoc, readString_escape, ih]
      rfl
  simp [readText, hread]

/-! ### Whole numbers -/

/-- What may follow a number: nothing that would go on with it. -/
def Delimited (rest : List Char) : Prop :=
  ∀ c, rest.head? = some c → c.isDigit = false ∧ c ≠ '.' ∧ c ≠ 'e' ∧ c ≠ 'E'

theorem toDigits_zero_head {n : Nat} {rest : List Char} (h : Nat.toDigits 10 n = '0' :: rest) : rest = [] := by
  induction n using Nat.strongRecOn generalizing rest with
  | ind n ih =>
    by_cases hlt : n < 10
    · rw [Nat.toDigits_of_lt_base hlt] at h
      exact (List.cons.inj h).2.symm
    · rw [Nat.toDigits_of_base_le (by decide) (by omega)] at h
      rcases List.append_eq_cons_iff.mp h with ⟨hnil, -⟩ | ⟨front, hfront, rfl⟩
      · exact absurd hnil Nat.toDigits_ne_nil
      · -- the digits in front are a zero alone, but what they stand for is not zero
        have hnil := ih (n / 10) (by omega) hfront
        rw [hnil] at hfront
        have hzero : n / 10 = 0 := by
          rw [← @Nat.ofDigitChars_ten_toDigits (n / 10), hfront]
          rfl
        omega

variable {rest : List Char}

theorem dropWhile_digits {digits : List Char} (hdigits : ∀ c ∈ digits, c.isDigit = true) (hrest : Delimited rest) :
    (digits ++ rest).takeWhile Char.isDigit = digits ∧ (digits ++ rest).dropWhile Char.isDigit = rest := by
  rw [List.takeWhile_append_of_pos hdigits, List.dropWhile_append_of_pos hdigits]
  cases rest with
  | nil => simp
  | cons c rest => simp [(hrest c rfl).1]

theorem readWhole_toDigits (n : Nat) (hrest : Delimited rest) :
    readWhole (Nat.toDigits 10 n ++ rest) = some (Nat.toDigits 10 n, rest) := by
  have hdigits : ∀ c ∈ Nat.toDigits 10 n, c.isDigit = true :=
    fun c hc => Nat.isDigit_of_mem_toDigits (by decide) (by decide) hc
  obtain ⟨htake, hdrop⟩ := dropWhile_digits hdigits hrest
  cases hn : Nat.toDigits 10 n with
  | nil => exact absurd hn Nat.toDigits_ne_nil
  | cons c digits =>
    by_cases hc : c = '0'
    · subst hc
      rw [toDigits_zero_head hn]
      rfl
    · rw [hn] at htake hdrop
      rw [List.cons_append, readWhole, readDigits, ← List.cons_append, htake, hdrop]
      exact fun _ heq => hc (List.cons.inj heq).1

theorem readFraction_delimited (hrest : Delimited rest) : readFraction rest = some ([], rest) := by
  cases rest with
  | nil => rfl
  | cons c rest =>
    obtain ⟨-, hpoint, -⟩ := hrest c rfl
    rw [readFraction]
    exact fun _ heq => hpoint (List.cons.inj heq).1

theorem readExponent_delimited (hrest : Delimited rest) : readExponent rest = some ([], rest) := by
  cases rest with
  | nil => rfl
  | cons c rest =>
    obtain ⟨-, -, hsmall, hlarge⟩ := hrest c rfl
    exact if_neg (not_or.mpr ⟨hsmall, hlarge⟩)

/-- The text of a whole number. -/
theorem toList_toString_int (n : Int) :
    (toString n).toList = if n < 0 then '-' :: Nat.toDigits 10 n.natAbs else Nat.toDigits 10 n.natAbs := by
  rw [Int.toString_eq_repr, Int.repr_eq_if]
  by_cases h : 0 ≤ n
  · have habs : n.toNat = n.natAbs := by omega
    rw [if_pos h, if_neg (by omega), Nat.repr_eq_ofList_toDigits, habs, String.toList_ofList]
  · have habs : (-n).toNat = n.natAbs := by omega
    rw [if_neg h, if_pos (by omega), Nat.repr_eq_ofList_toDigits, habs, String.toList_append,
      String.toList_ofList]
    simp

theorem toDigits_head (n : Nat) : ∃ c digits, Nat.toDigits 10 n = c :: digits ∧ c.isDigit = true := by
  cases hn : Nat.toDigits 10 n with
  | nil => exact absurd hn Nat.toDigits_ne_nil
  | cons c digits =>
    have hmem : c ∈ Nat.toDigits 10 n := by rw [hn]; exact List.mem_cons_self
    exact ⟨c, digits, rfl, Nat.isDigit_of_mem_toDigits (by decide) (by decide) hmem⟩

theorem readNumber_int (n : Int) (hrest : Delimited rest) :
    readNumber ((toString n).toList ++ rest) = some ((toString n).toList, rest) := by
  have hwhole := readWhole_toDigits n.natAbs hrest
  rw [toList_toString_int]
  split
  · simp [readNumber, hwhole, readFraction_delimited hrest, readExponent_delimited hrest]
  · obtain ⟨c, digits, hn, hc⟩ := toDigits_head n.natAbs
    have hminus : c ≠ '-' := by rintro rfl; contradiction
    rw [hn, List.cons_append] at hwhole
    rw [hn, List.cons_append]
    simp [readNumber, hminus, hwhole, readFraction_delimited hrest, readExponent_delimited hrest]

theorem ofText_int (n : Int) : Numeral.ofText (toString n) = ⟨n < 0, Nat.toDigits 10 n.natAbs, none, none⟩ := by
  have hdigits : ∀ c ∈ Nat.toDigits 10 n.natAbs, c.isDigit = true :=
    fun c hc => Nat.isDigit_of_mem_toDigits (by decide) (by decide) hc
  obtain ⟨htake, hdrop⟩ := @dropWhile_digits [] _ hdigits (by simp [Delimited])
  rw [List.append_nil] at htake hdrop
  have hsplit : Decimal.splitSign (toString n).toList = (decide (n < 0), Nat.toDigits 10 n.natAbs) := by
    rw [toList_toString_int]
    split
    · next hneg => simp [Decimal.splitSign, hneg]
    · next hneg =>
      obtain ⟨c, digits, hn, hc⟩ := toDigits_head n.natAbs
      rw [hn, Decimal.splitSign]
      · simp [hneg]
      all_goals
        rintro rest heq
        cases heq
        contradiction
  simp only [Numeral.ofText, hsplit, htake, hdrop, List.isEmpty_nil, ↓reduceIte]

/-- A whole number within the bounds is read as itself. -/
theorem int?_int {low high n : Int} (hlow : low ≤ n) (hhigh : n ≤ high) : (int n).int? low high = some n := by
  have hvalue : Binary64.signed (n < 0) n.natAbs = n := by
    by_cases hneg : n < 0
    · rw [Binary64.signed, if_pos (decide_eq_true hneg)]
      omega
    · rw [Binary64.signed, if_neg (by simpa using hneg)]
      omega
  show wholeNumber? low high (toString n) = some n
  simp only [wholeNumber?, ofText_int, Nat.ofDigitChars_ten_toDigits, hvalue]
  have hzero : (decide (n < 0) && decide (n = 0)) = false := by
    rw [Bool.and_eq_false_iff, decide_eq_false_iff_not, decide_eq_false_iff_not]
    omega
  rw [hzero, decide_eq_true hlow, decide_eq_true hhigh]
  rfl

end FormRules.Json
