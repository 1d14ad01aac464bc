import Mathlib.Data.List.TakeWhile
import FormRules.Number.Notation
import FormRules.Proofs.Number.Rounding

/-!
# Reading a number back from its text

Every decimal that the search for the shortest one may come up with lies in the interval of the numbers that are
rounded to the rank (`readsBack_shortest`), so reading it gives the number again. The positional text of a decimal
has its digits in order, whatever the place of the point, and every text that `plain` writes is read back as the
number it was written for (`read?_plain`).
-/

namespace FormRules

namespace Decimal

/-- A decimal as a fraction of units, `numerator` over `denominator`. -/
def numerator (d : Decimal) : Nat := d.digits * 10 ^ d.exponent.toNat * Binary64.unitsPerOne

def denominator (d : Decimal) : Nat := 10 ^ (-d.exponent).toNat

theorem denominator_pos (d : Decimal) : 0 < d.denominator := Nat.pow_pos (by decide)

end Decimal

namespace Binary64

/-! ### The search for the shortest decimal -/

theorem nearestMultiple?_mem {tie : TieRule} {closed : Bool} {low value high step k : Nat}
    (h : nearestMultiple? tie closed low value high step = some k) :
    low ≤ k * step ∧ k * step ≤ high ∧ (closed = false → low < k * step ∧ k * step < high) := by
  unfold nearestMultiple? at h
  extract_lets below reads rest at h
  clear_value below
  have hreads : reads k = true := by
    split at h
    · next hbelow habove =>
      split at h
      · cases h
        exact hbelow
      · split at h
        · cases h
          exact habove
        · cases tie with
          | up =>
            cases h
            exact habove
          | toEven =>
            rw [Option.some.injEq] at h
            subst h
            split
            · exact hbelow
            · exact habove
    · next hbelow _ =>
      cases h
      exact hbelow
    · next _ habove =>
      cases h
      exact habove
    · cases h
  cases closed with
  | true => simpa [reads] using hreads
  | false =>
    have := of_decide_eq_true ((Bool.and_eq_true_iff.mp hreads).1)
    have := of_decide_eq_true ((Bool.and_eq_true_iff.mp hreads).2)
    omega

/-- The rank is nearest to the decimal. -/
def ReadsBack (rank : Nat) (d : Decimal) : Prop := Nearest rank d.numerator d.denominator

theorem readsBack_onGrid? {tie : TieRule} {rank : Nat} {exponent : Int} {d : Decimal}
    (h : onGrid? tie rank exponent = some d) : ReadsBack rank d := by
  obtain ⟨k, hfound, rfl⟩ := Option.map_eq_some_iff.mp h
  have hodd (hrank : rank % 2 = 1) : decide (rank % 2 = 0) = false := by
    rw [hrank]
    rfl
  split at hfound
  · next hneg =>
    have hzero : exponent.toNat = 0 := by omega
    have hsame : exponent.natAbs = (-exponent).toNat := by omega
    have hnum : 2 * (Decimal.mk k exponent).numerator = k * (2 * unitsPerOne) := by
      rw [Decimal.numerator, hzero, Nat.pow_zero, Nat.mul_one, Nat.mul_left_comm]
    have hden : (Decimal.mk k exponent).denominator = Nat.pow 10 exponent.natAbs := by
      rw [Decimal.denominator, hsame]
      rfl
    obtain ⟨hlow, hhigh, hopen⟩ := nearestMultiple?_mem hfound
    rw [← hnum, ← hden] at hlow hhigh hopen
    exact ⟨hlow, hhigh, fun hrank => hopen (hodd hrank)⟩
  · next hnonneg =>
    have hzero : (-exponent).toNat = 0 := by omega
    have hsame : exponent.natAbs = exponent.toNat := by omega
    have hnum : 2 * (Decimal.mk k exponent).numerator = k * (2 * unitsPerOne * Nat.pow 10 exponent.natAbs) := by
      rw [Decimal.numerator, hsame, Nat.pow_eq, Nat.mul_assoc k, Nat.mul_left_comm, Nat.mul_comm (_ ^ _),
        ← Nat.mul_assoc 2]
    have hden : (Decimal.mk k exponent).denominator = 1 := by rw [Decimal.denominator, hzero, Nat.pow_zero]
    obtain ⟨hlow, hhigh, hopen⟩ := nearestMultiple?_mem hfound
    rw [← hnum] at hlow hhigh hopen
    constructor <;> rw [hden, Nat.mul_one]
    · exact hlow
    · exact hhigh
    · rw [Nat.mul_one]
      exact fun hrank => hopen (hodd hrank)

theorem readsBack_exactDecimal {rank : Nat} : ReadsBack rank (exactDecimal rank) := by
  -- the powers are kept apart while their exponent is a variable
  obtain ⟨places, hplaces⟩ : ∃ places, places = 1074 := ⟨_, rfl⟩
  have hunits : unitsPerOne = 2 ^ places := by
    rw [unitsPerOne, ← hplaces]
    exact Nat.one_shiftLeft places
  have hexact : exactDecimal rank = ⟨magnitude rank * Nat.pow 5 places, -places⟩ := by
    rw [exactDecimal, ← hplaces, show (-1074 : Int) = -places by omega]
  have hvalue : (exactDecimal rank).numerator = magnitude rank * (exactDecimal rank).denominator := by
    rw [hexact, Decimal.numerator, Decimal.denominator, hunits, Int.neg_neg, Int.toNat_natCast,
      Int.toNat_neg_natCast, Nat.pow_zero, Nat.mul_one, Nat.mul_assoc, Nat.pow_eq, ← Nat.mul_pow]
  rw [ReadsBack, hvalue]
  exact nearest_exact (exactDecimal rank).denominator_pos

theorem readsBack_searchGrids (tie : TieRule) (rank : Nat) (steps : Nat) (exponent : Int) :
    ReadsBack rank (searchGrids tie rank exponent steps) := by
  induction steps generalizing exponent with
  | zero => exact readsBack_exactDecimal
  | succ steps ih =>
    rw [searchGrids]
    cases hfound : onGrid? tie rank exponent with
    | none => exact ih (exponent - 1)
    | some d => exact readsBack_onGrid? hfound

theorem readsBack_shortest {tie : TieRule} {rank : Nat} (hpos : 0 < rank) :
    ReadsBack rank (shortest tie rank) := by
  rw [shortest, if_neg (Nat.ne_of_gt hpos)]
  exact readsBack_searchGrids tie rank 20 _

/-! ### Reading a decimal -/

theorem lt_pow_length (n : Nat) : n < 10 ^ (Nat.toDigits 10 n).length :=
  (Nat.length_toDigits_le_iff (by decide) Nat.length_toDigits_pos).mp (Nat.le_refl _)

theorem pow_length_le {n : Nat} (hpos : 0 < n) : 10 ^ ((Nat.toDigits 10 n).length - 1) ≤ n := by
  refine Nat.le_of_not_lt fun hlt => ?_
  rcases Nat.eq_zero_or_pos ((Nat.toDigits 10 n).length - 1) with hone | hmore
  · rw [hone, Nat.pow_zero] at hlt
    omega
  · have := (Nat.length_toDigits_le_iff (by decide) hmore).mpr hlt
    omega

namespace ReadsBack

variable {rank : Nat} {d : Decimal}

theorem denominator_le (hpos : 0 < rank) (h : ReadsBack rank d) : d.denominator ≤ 2 * d.numerator := by
  have hone : 1 ≤ magnitude rank := Nat.le_trans (Nat.succ_le_of_lt (magnitude_lt_succ 0)) (magnitude_mono hpos)
  have hsum : 1 ≤ magnitude (rank - 1) + magnitude rank := Nat.le_add_left_of_le hone
  have hlow := Nat.le_trans (Nat.mul_le_mul_right d.denominator hsum) h.low
  rwa [Nat.one_mul] at hlow

theorem numerator_le (hlt : rank < rankCount) (h : ReadsBack rank d) :
    d.numerator ≤ magnitude rankCount * d.denominator := by
  have hnext := magnitude_mono (Nat.succ_le_of_lt hlt)
  have hself := magnitude_mono (Nat.le_of_lt hlt)
  have := Nat.mul_le_mul_right d.denominator (Nat.add_le_add hself hnext)
  have := Nat.le_trans h.high this
  rw [Nat.add_mul] at this
  omega

theorem digits_pos (hpos : 0 < rank) (h : ReadsBack rank d) : 0 < d.digits := by
  refine Nat.pos_of_ne_zero fun hzero => ?_
  have hle := h.denominator_le hpos
  rw [Decimal.numerator, hzero, Nat.zero_mul, Nat.zero_mul] at hle
  exact absurd d.denominator_pos (Nat.not_lt_of_le hle)

/-- The decimal is not so small that it would be taken for zero. -/
theorem places_ge (hpos : 0 < rank) (h : ReadsBack rank d) :
    -400 ≤ (Nat.toDigits 10 d.digits).length + d.exponent := by
  refine Int.not_lt.mp fun hsmall => ?_
  obtain ⟨bound, hbound, hunits⟩ : ∃ bound ≤ 401, 2 * unitsPerOne ≤ 10 ^ bound :=
    ⟨401, Nat.le_refl _, by decide +kernel⟩
  have hle := h.denominator_le hpos
  have hzero : d.exponent.toNat = 0 := by omega
  have hplaces : (Nat.toDigits 10 d.digits).length + bound ≤ (-d.exponent).toNat := by omega
  rw [Decimal.numerator, hzero, Nat.pow_zero, Nat.mul_one, Nat.mul_left_comm] at hle
  have hden : 10 ^ (Nat.toDigits 10 d.digits).length * 10 ^ bound ≤ d.denominator := by
    rw [← Nat.pow_add]
    exact Nat.pow_le_pow_right (by decide) hplaces
  have hdigits := Nat.mul_lt_mul_of_pos_right (lt_pow_length d.digits) (Nat.pow_pos (by decide) : 0 < 10 ^ bound)
  have := Nat.mul_le_mul_left d.digits hunits
  omega

/-- The decimal is not so great that it would be taken for infinite. -/
theorem places_le (hpos : 0 < rank) (hlt : rank < rankCount) (h : ReadsBack rank d) :
    (Nat.toDigits 10 d.digits).length + d.exponent ≤ 400 := by
  refine Int.not_lt.mp fun hgreat => ?_
  obtain ⟨bound, hbound, hunits⟩ : ∃ bound ≤ 400, magnitude rankCount < 10 ^ bound * unitsPerOne :=
    ⟨400, Nat.le_refl _, by decide +kernel⟩
  have hle := h.numerator_le hlt
  have hdigits := pow_length_le (h.digits_pos hpos)
  have hplaces : (-d.exponent).toNat + bound ≤ (Nat.toDigits 10 d.digits).length - 1 + d.exponent.toNat := by omega
  have hnum : d.denominator * 10 ^ bound * unitsPerOne ≤ d.numerator := by
    refine Nat.mul_le_mul_right _ ?_
    refine Nat.le_trans ?_ (Nat.mul_le_mul_right _ hdigits)
    rw [Decimal.denominator, ← Nat.pow_add, ← Nat.pow_add]
    exact Nat.pow_le_pow_right (by decide) hplaces
  have := Nat.mul_lt_mul_of_pos_left hunits d.denominator_pos
  rw [Nat.mul_comm] at hle
  rw [Nat.mul_assoc] at hnum
  omega

theorem ofDecimal_eq (negative : Bool) (hpos : 0 < rank) (hlt : rank < rankCount) (h : ReadsBack rank d) :
    ofDecimal negative d = .finite negative ⟨rank, hlt⟩ := by
  have hlow := h.places_ge hpos
  have hhigh := h.places_le hpos hlt
  have hne := Nat.ne_of_gt (h.digits_pos hpos)
  have hunits : ofDecimal negative d = ofUnits negative d.numerator d.denominator := by
    rw [ofDecimal, if_neg (by omega), if_neg (by omega)]
    split
    · next hneg =>
      rw [Decimal.numerator, Decimal.denominator, show d.exponent.toNat = 0 by omega,
        show d.exponent.natAbs = (-d.exponent).toNat by omega, Nat.pow_zero, Nat.mul_one, Nat.pow_eq]
    · next hnonneg =>
      rw [Decimal.numerator, Decimal.denominator, show (-d.exponent).toNat = 0 by omega,
        show d.exponent.natAbs = d.exponent.toNat by omega, Nat.pow_zero, Nat.pow_eq]
  have hrank := nearestRank_eq d.denominator_pos h
  rw [hunits, ofUnits, dif_pos (hrank ▸ hlt)]
  simp only [hrank]

end ReadsBack

end Binary64

/-! ### Texts -/

namespace Decimal

theorem readDigits?_eq {cs : List Char} (hne : cs ≠ []) (hdigits : ∀ c ∈ cs, c.isDigit = true) :
    readDigits? cs = some (Nat.ofDigitChars 10 cs 0) := by
  rw [readDigits?, if_pos]
  rw [Bool.and_eq_true, Bool.not_eq_true', List.isEmpty_eq_false_iff, List.all_eq_true]
  exact ⟨hne, hdigits⟩

theorem readUnsigned?_whole {cs : List Char} (hne : cs ≠ []) (hdigits : ∀ c ∈ cs, c.isDigit = true) :
    readUnsigned? cs = some ⟨Nat.ofDigitChars 10 cs 0, 0⟩ := by
  have htake : cs.takeWhile Char.isDigit = cs := List.takeWhile_eq_self_iff.mpr hdigits
  have hdrop : cs.dropWhile Char.isDigit = [] := List.dropWhile_eq_nil_iff.mpr hdigits
  simp [readUnsigned?, htake, hdrop, readDigits?_eq hne hdigits, readExponent?]

theorem readUnsigned?_point (whole fraction : List Char) (hne : whole ++ fraction ≠ [])
    (hdigits : ∀ c ∈ whole ++ fraction, c.isDigit = true) :
    readUnsigned? (whole ++ '.' :: fraction) =
      some ⟨Nat.ofDigitChars 10 (whole ++ fraction) 0, -fraction.length⟩ := by
  have hwhole (c : Char) (hc : c ∈ whole) : c.isDigit = true := hdigits c (List.mem_append_left _ hc)
  have hfraction (c : Char) (hc : c ∈ fraction) : c.isDigit = true := hdigits c (List.mem_append_right _ hc)
  have htake : (whole ++ '.' :: fraction).takeWhile Char.isDigit = whole := by
    rw [List.takeWhile_append_of_pos hwhole, List.takeWhile_cons_of_neg (by decide), List.append_nil]
  have hdrop : (whole ++ '.' :: fraction).dropWhile Char.isDigit = '.' :: fraction := by
    rw [List.dropWhile_append_of_pos hwhole, List.dropWhile_cons_of_neg (by decide)]
  have hfull : fraction.takeWhile Char.isDigit = fraction := List.takeWhile_eq_self_iff.mpr hfraction
  have hnone : fraction.dropWhile Char.isDigit = [] := List.dropWhile_eq_nil_iff.mpr hfraction
  simp [readUnsigned?, htake, hdrop, hfull, hnone, readDigits?_eq hne hdigits, readExponent?]

end Decimal

namespace Binary64

theorem toLower_of_isDigit {c : Char} (h : c.isDigit = true) : c.toLower = c := by
  have hle : c.val ≤ '9'.val := of_decide_eq_true (Bool.and_eq_true_iff.mp h).2
  have hlt : ('9'.val : UInt32) < 'A'.val := by decide
  exact dif_neg fun hupper => UInt32.not_lt.mpr hupper.1 (UInt32.lt_of_le_of_lt hle hlt)

/-- A number is read after its sign, as a text that starts with a digit is none of the words. -/
theorem read?_signed (negative : Bool) {c : Char} {cs : List Char} {d : Decimal} (hc : c.isDigit = true)
    (h : Decimal.readUnsigned? (c :: cs) = some d) :
    read? ((if negative then ['-'] else []) ++ c :: cs) = some (ofDecimal negative d) := by
  have hsplit : Decimal.splitSign ((if negative then ['-'] else []) ++ c :: cs) = (negative, c :: cs) := by
    cases negative with
    | true => rfl
    | false =>
      show Decimal.splitSign (c :: cs) = _
      unfold Decimal.splitSign
      split
      · next heq =>
        cases heq
        exact absurd hc (by decide)
      · next heq =>
        cases heq
        exact absurd hc (by decide)
      · rfl
  have hword (first : Char) (rest : List Char) (hfirst : first.isDigit = false) :
      String.ofList ((c :: cs).map Char.toLower) ≠ String.ofList (first :: rest) := by
    intro heq
    rw [String.ofList_inj, List.map_cons, toLower_of_isDigit hc, List.cons.injEq] at heq
    rw [← heq.1, hc] at hfirst
    cases hfirst
  rw [read?, hsplit]
  dsimp only
  rw [if_neg (not_or.mpr ⟨hword 'i' ['n', 'f'] rfl, hword 'i' ['n', 'f', 'i', 'n', 'i', 't', 'y'] rfl⟩),
    if_neg (hword 'n' ['a', 'n'] rfl), h, Option.map_some]

theorem toList_positional (digits : String) (places : Int) :
    (positional digits places).toList =
      if places ≤ 0 then '0' :: '.' :: (List.replicate places.natAbs '0' ++ digits.toList)
      else if places.toNat < digits.toList.length then
        digits.toList.take places.toNat ++ '.' :: digits.toList.drop places.toNat
      else digits.toList ++ List.replicate (places.toNat - digits.toList.length) '0' := by
  unfold positional
  split
  · show ("0." ++ String.ofList (List.replicate _ '0') ++ digits).toList = _
    rw [String.toList_append, String.toList_append, String.toList_ofList, String.toList_ofList]
    rfl
  · rw [String.length_toList]
    split
    · rw [String.toList_append, String.toList_append, String.toList_ofList, String.toList_ofList,
        String.toList_ofList, List.append_assoc]
      rfl
    · show (digits ++ String.ofList (List.replicate _ '0')).toList = _
      rw [String.toList_append, String.toList_ofList]

/-- Digits after a point, zeros filling the gap. -/
theorem readUnsigned?_below {digits zeros : Nat} {exponent : Int}
    (hzeros : (Nat.toDigits 10 digits).length + exponent = -zeros) :
    Decimal.readUnsigned? ('0' :: '.' :: (List.replicate zeros '0' ++ Nat.toDigits 10 digits)) =
      some ⟨digits, exponent⟩ := by
  have hdigits (c : Char) (hc : c ∈ List.replicate (zeros + 1) '0' ++ Nat.toDigits 10 digits) :
      c.isDigit = true := by
    rcases List.mem_append.mp hc with hzero | hdigit
    · rw [List.eq_of_mem_replicate hzero]
      rfl
    · exact Nat.isDigit_of_mem_toDigits (by decide) (Nat.le_refl _) hdigit
  have hvalue : Nat.ofDigitChars 10 (List.replicate (zeros + 1) '0' ++ Nat.toDigits 10 digits) 0 = digits := by
    rw [Nat.ofDigitChars_append, Nat.ofDigitChars_replicate_zero, Nat.mul_zero, Nat.ofDigitChars_ten_toDigits]
  rw [List.replicate_succ, List.cons_append] at hdigits hvalue
  show Decimal.readUnsigned? (['0'] ++ '.' :: _) = _
  rw [Decimal.readUnsigned?_point _ _ (List.cons_ne_nil _ _) hdigits, List.singleton_append, hvalue,
    Option.some.injEq, Decimal.mk.injEq, List.length_append, List.length_replicate]
  omega

/-- Digits with a point among them. -/
theorem readUnsigned?_among {digits places : Nat} {exponent : Int}
    (hlt : places < (Nat.toDigits 10 digits).length)
    (hplaces : (Nat.toDigits 10 digits).length + exponent = places) :
    Decimal.readUnsigned? ((Nat.toDigits 10 digits).take places ++ '.' :: (Nat.toDigits 10 digits).drop places) =
      some ⟨digits, exponent⟩ := by
  have hdigits (c : Char) (hc : c ∈ Nat.toDigits 10 digits) : c.isDigit = true :=
    Nat.isDigit_of_mem_toDigits (by decide) (Nat.le_refl _) hc
  rw [← List.take_append_drop places (Nat.toDigits 10 digits)] at hdigits
  rw [Decimal.readUnsigned?_point _ _ (by rw [List.take_append_drop]; exact Nat.toDigits_ne_nil) hdigits,
    List.take_append_drop, Nat.ofDigitChars_ten_toDigits, Option.some.injEq, Decimal.mk.injEq, List.length_drop]
  omega

/-- Digits before zeros. -/
theorem readUnsigned?_above (digits zeros : Nat) :
    Decimal.readUnsigned? (Nat.toDigits 10 digits ++ List.replicate zeros '0') =
      some ⟨10 ^ zeros * digits, 0⟩ := by
  have hdigits (c : Char) (hc : c ∈ Nat.toDigits 10 digits ++ List.replicate zeros '0') : c.isDigit = true := by
    rcases List.mem_append.mp hc with hdigit | hzero
    · exact Nat.isDigit_of_mem_toDigits (by decide) (Nat.le_refl _) hdigit
    · rw [List.eq_of_mem_replicate hzero]
      rfl
  rw [Decimal.readUnsigned?_whole (List.append_ne_nil_of_left_ne_nil Nat.toDigits_ne_nil _) hdigits,
    Nat.ofDigitChars_append, Nat.ofDigitChars_ten_toDigits, Nat.ofDigitChars_replicate_zero]

/-- The positional text of a decimal starts with a digit and reads as the same fraction. -/
theorem exists_readUnsigned?_positional (digits : Nat) (exponent : Int) :
    ∃ c cs d, (positional (toString digits) ((toString digits).length + exponent)).toList = c :: cs ∧
      c.isDigit = true ∧ Decimal.readUnsigned? (c :: cs) = some d ∧
      d.numerator = (Decimal.mk digits exponent).numerator ∧
      d.denominator = (Decimal.mk digits exponent).denominator := by
  have hlist : (toString digits).toList = Nat.toDigits 10 digits := by
    rw [Nat.toString_eq_ofList_toDigits, String.toList_ofList]
  rw [toList_positional, ← String.length_toList, hlist]
  obtain ⟨c, rest, hcons⟩ := List.exists_cons_of_ne_nil (Nat.toDigits_ne_nil (n := digits) (b := 10))
  have hc : c.isDigit = true :=
    Nat.isDigit_of_mem_toDigits (by decide) (Nat.le_refl _) (hcons ▸ List.mem_cons_self)
  split
  · next hbelow => exact ⟨'0', _, _, rfl, rfl, readUnsigned?_below (by omega), rfl, rfl⟩
  · split
    · next hpos hlt =>
      have hread : Decimal.readUnsigned? _ = some ⟨digits, exponent⟩ := readUnsigned?_among hlt (by omega)
      obtain ⟨places, hplaces⟩ := Nat.exists_eq_add_one_of_ne_zero
        (show ((Nat.toDigits 10 digits).length + exponent).toNat ≠ 0 by omega)
      rw [hplaces] at hread ⊢
      rw [hcons, List.take_succ_cons] at hread ⊢
      exact ⟨c, _, _, rfl, hc, hread, rfl, rfl⟩
    · next hpos hge =>
      have hsame : ((Nat.toDigits 10 digits).length + exponent).toNat - (Nat.toDigits 10 digits).length =
        exponent.toNat := by omega
      have hread := readUnsigned?_above digits exponent.toNat
      rw [hsame]
      rw [hcons] at hread ⊢
      refine ⟨c, _, _, rfl, hc, hread, ?_, ?_⟩
      · rw [Decimal.numerator, Decimal.numerator, Int.toNat_zero, Nat.pow_zero, Nat.mul_one, Nat.mul_comm digits]
      · simp only [Decimal.denominator, show (-exponent).toNat = 0 by omega, Int.neg_zero, Int.toNat_zero]

theorem toList_plain (negative : Bool) {rank : Fin rankCount} (hpos : 0 < rank.val) :
    (plain (.finite negative rank)).toList = (if negative then ['-'] else []) ++
      (positional (toString (shortest .up rank).digits)
        ((toString (shortest .up rank).digits).length + (shortest .up rank).exponent)).toList := by
  unfold plain
  dsimp only
  rw [if_neg (Nat.ne_of_gt hpos), String.toList_append]
  cases negative <;> rfl

/-- Every number is read back from its positional text. -/
theorem read?_plain (x : Binary64) : read? x.plain.toList = some x := by
  cases x with
  | nan => decide +kernel
  | infinite negative => cases negative <;> decide +kernel
  | finite negative rank =>
    rcases Nat.eq_zero_or_pos rank.val with hzero | hpos
    · obtain rfl : rank = ⟨0, by decide⟩ := Fin.ext hzero
      cases negative <;> decide +kernel
    · obtain ⟨c, cs, d, htext, hc, hread, hnum, hden⟩ :=
        exists_readUnsigned?_positional (shortest .up rank.val).digits (shortest .up rank.val).exponent
      have hback : ReadsBack rank.val d := by
        have hshortest : ReadsBack rank.val (shortest .up rank.val) := readsBack_shortest hpos
        rw [ReadsBack, hnum, hden]
        exact hshortest
      rw [toList_plain negative hpos, htext, read?_signed negative hc hread,
        hback.ofDecimal_eq negative hpos rank.isLt]

end Binary64

end FormRules
