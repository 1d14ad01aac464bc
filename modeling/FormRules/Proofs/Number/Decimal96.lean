import Mathlib.Tactic.IntervalCases
import Mathlib.Tactic.Ring
import FormRules.Number.Decimal96
import FormRules.Proofs.Number.Rounding

/-!
# Decimals of numbers

The sign of a number has no influence on its decimal but to be carried along, and rounding drops it just where zero is
left (`rounded_sign`).

What is left of a number is zero only if the number is below half a unit of the last place (`lt_half_of_roundsToZero`):
each loss in the conversion is small against the coefficient (`halve_lower`), the digits that are given up are rounded
one by one, and those after the loss are enough to make up for it (`Near`).
-/

namespace FormRules.Decimal96

/-! ### The sign -/

theorem ofScaled?_sign (negative : Bool) (s : Scaled) :
    ofScaled? negative s = (ofScaled? false s).map ({ · with negative }) := by
  unfold ofScaled?
  cases grow? s.exponent.toNat s.coefficient <;> rfl

/-- The sign is carried along by the conversion. -/
theorem ofBinary64?_sign (negative : Bool) (rank : Fin rankCount) :
    ofBinary64? (.finite negative rank) = (ofBinary64? (.finite false rank)).map ({ · with negative }) := by
  unfold ofBinary64?
  dsimp only
  split
  · rfl
  · split
    · exact ofScaled?_sign negative _
    · cases double? (Int.natAbs _) _ with
      | none => rfl
      | some s => exact ofScaled?_sign negative s

theorem addZeros_sign (negative : Bool) (steps : Nat) (d : Decimal96) :
    addZeros steps { d with negative } = { addZeros steps d with negative } := by
  induction steps generalizing d with
  | zero => rfl
  | succ steps ih =>
    rw [addZeros, addZeros]
    split
    · exact ih { d with coefficient := 10 * d.coefficient, scale := d.scale + 1 }
    · rfl

theorem rescaled_sign (negative : Bool) (d : Decimal96) (places : Nat) :
    { d with negative }.rescaled places = { d.rescaled places with negative } := by
  unfold rescaled
  dsimp only
  split
  · rfl
  · exact addZeros_sign negative _ d

/-- Rounding to so many places makes zero of a decimal that has more. -/
def RoundsToZero (d : Decimal96) (places : Nat) : Prop := places < d.scale ∧ (d.rounded places).coefficient = 0

instance (d : Decimal96) (places : Nat) : Decidable (d.RoundsToZero places) :=
  inferInstanceAs (Decidable (_ ∧ _))

/-- Rounding keeps the sign unless it makes zero. -/
theorem rounded_sign (negative : Bool) (d : Decimal96) (places : Nat) :
    { d with negative }.rounded places =
      { d.rounded places with negative := negative && decide (¬ d.RoundsToZero places) } := by
  unfold RoundsToZero rounded
  dsimp only
  split
  · next h => simp [Nat.not_lt.mpr h]
  · next h => simp [Nat.lt_of_not_le h]

/-! ### What the conversion loses -/

/-- Every step loses at most the part `5 / limit` of the number. -/
theorem halve_lower (steps : Nat) (s : Scaled) : ∃ k : Nat, (halve steps s).exponent = s.exponent + k ∧
    (limit - 5 * steps) * (s.coefficient * 5 ^ steps) ≤ limit * ((halve steps s).coefficient * 10 ^ k) := by
  induction steps generalizing s with
  | zero => exact ⟨0, by simp [halve], by simp [halve]⟩
  | succ steps ih =>
    obtain ⟨m, e⟩ := s
    have hmono : limit - 5 * (steps + 1) ≤ limit - 5 * steps := Nat.sub_le_sub_left (by omega) _
    -- a halving, with or without a loss
    have hhalved (h : (limit - 5 * (steps + 1)) * m ≤ (limit - 5 * steps) * (2 * (m / 2))) :
        ∃ k : Nat, (halve steps ⟨m / 2, e + 1⟩).exponent = e + k ∧ (limit - 5 * (steps + 1)) * (m * 5 ^ (steps + 1)) ≤
          limit * ((halve steps ⟨m / 2, e + 1⟩).coefficient * 10 ^ k) := by
      obtain ⟨k, hexponent, hlower⟩ := ih ⟨m / 2, e + 1⟩
      refine ⟨k + 1, by rw [hexponent]; push_cast; omega, ?_⟩
      calc (limit - 5 * (steps + 1)) * (m * 5 ^ (steps + 1))
          = (limit - 5 * (steps + 1)) * m * 5 ^ (steps + 1) := (Nat.mul_assoc _ _ _).symm
        _ ≤ (limit - 5 * steps) * (2 * (m / 2)) * 5 ^ (steps + 1) := Nat.mul_le_mul_right _ h
        _ = (limit - 5 * steps) * (m / 2 * 5 ^ steps) * 10 := by ring
        _ ≤ limit * ((halve steps ⟨m / 2, e + 1⟩).coefficient * 10 ^ k) * 10 := Nat.mul_le_mul_right _ hlower
        _ = limit * ((halve steps ⟨m / 2, e + 1⟩).coefficient * 10 ^ (k + 1)) := by ring
    rw [halve]
    split
    · next heven =>
      refine hhalved ?_
      rw [show 2 * (m / 2) = m by omega]
      exact Nat.mul_le_mul_right _ hmono
    · split
      · obtain ⟨k, hexponent, hlower⟩ := ih ⟨5 * m, e⟩
        refine ⟨k, hexponent, Nat.le_trans (Nat.mul_le_mul_right _ hmono) ?_⟩
        rw [show m * 5 ^ (steps + 1) = 5 * m * 5 ^ steps by ring]
        exact hlower
      · next hlarge =>
        refine hhalved ?_
        have hloss : limit - 5 * steps ≤ 5 * m := by omega
        rw [Nat.mul_succ, Nat.sub_add_eq, Nat.sub_mul]
        refine Nat.sub_le_of_le_add ?_
        calc (limit - 5 * steps) * m
            = (limit - 5 * steps) * (2 * (m / 2)) + (limit - 5 * steps) * (m % 2) := by
              rw [← Nat.mul_add, Nat.div_add_mod]
          _ ≤ (limit - 5 * steps) * (2 * (m / 2)) + 5 * m := by
              have hbit : m % 2 ≤ 1 := Nat.le_of_lt_succ (Nat.mod_lt m (by decide))
              have hrest := Nat.mul_le_mul_left (limit - 5 * steps) hbit
              rw [Nat.mul_one] at hrest
              exact Nat.add_le_add_left (Nat.le_trans hrest hloss) _

/-! ### Digits that are given up -/

/-- The coefficient is at least `5 * 10 ^ i` but for a rest, which is gone when twenty places are left. -/
def Near (i m : Nat) : Prop := 5 * 10 ^ i ≤ m + 10 ^ (i - 20) / 2

theorem Near.tenth {i m : Nat} (h : Near (i + 1) m) : Near i (tenth m) := by
  unfold Near Decimal96.tenth at *
  rw [Nat.pow_succ] at h
  rcases Nat.lt_or_ge i 20 with hsmall | hlarge
  · rw [Nat.sub_eq_zero_of_le (by omega), Nat.pow_zero] at h ⊢
    split <;> omega
  · rw [Nat.sub_add_comm hlarge, Nat.pow_succ] at h
    split <;> omega

theorem Near.ten_le {i m : Nat} (h : Near (i + 1) m) : 10 ≤ m := by
  unfold Near at h
  have hslack : 10 ^ (i + 1 - 20) ≤ 10 ^ (i + 1) := Nat.pow_le_pow_right (by decide) (Nat.sub_le _ _)
  have hpos : 0 < 10 ^ i := Nat.pow_pos (by decide)
  rw [Nat.pow_succ 10 i] at h hslack
  omega

theorem Near.shrink {i m : Nat} (steps : Nat) (h : Near (i + steps) m) : Near i (shrink steps m) := by
  induction steps generalizing m with
  | zero => exact h
  | succ steps ih =>
    have hten : m / 10 ≠ 0 := Nat.ne_of_gt (Nat.div_pos h.ten_le (by decide))
    rw [Decimal96.shrink, if_neg hten]
    exact ih h.tenth

theorem trimDigits_snd (places m : Nat) :
    (trimDigits places m).2 ≤ places ∧ ((trimDigits places m).2 = 0 ∨ (trimDigits places m).1 < 2 ^ 52) := by
  induction places generalizing m with
  | zero => exact ⟨Nat.le_refl _, .inl rfl⟩
  | succ places ih =>
    rw [trimDigits]
    split
    · exact ⟨Nat.le_succ_of_le (ih _).1, (ih _).2⟩
    · next h => exact ⟨Nat.le_refl _, .inr (Nat.lt_of_not_le h)⟩

theorem Near.trimDigits {places m q : Nat} (hq : q ≤ (trimDigits places m).2) (h : Near (places - q) m) :
    Near ((trimDigits places m).2 - q) (trimDigits places m).1 := by
  induction places generalizing m with
  | zero => exact h
  | succ places ih =>
    rw [Decimal96.trimDigits] at hq ⊢
    split at hq
    · next hlarge =>
      rw [if_pos hlarge]
      have hle := Nat.le_trans hq (trimDigits_snd places _).1
      rw [Nat.sub_add_comm hle] at h
      exact ih hq h.tenth
    · next hsmall =>
      rw [if_neg hsmall]
      exact h

/-- A coefficient that was trimmed to 52 bits has made up for the rest. -/
theorem Near.le_of_lt {i m : Nat} (h : Near i m) (hi : i ≤ 27) (hm : m < 2 ^ 52) : 5 * 10 ^ i ≤ m := by
  unfold Near at h
  rcases Nat.lt_or_ge 20 i with hlarge | hsmall
  · exfalso
    interval_cases i <;> omega
  · rw [Nat.sub_eq_zero_of_le hsmall] at h
    exact h

theorem trimZeros_snd (places m : Nat) : (trimZeros places m).2 ≤ places := by
  induction places generalizing m with
  | zero => exact Nat.le_refl _
  | succ places ih =>
    rw [trimZeros]
    split
    · exact Nat.le_succ_of_le (ih _)
    · exact Nat.le_refl _

theorem le_trimZeros {places m q : Nat} (hq : q ≤ (trimZeros places m).2) (h : 5 * 10 ^ (places - q) ≤ m) :
    5 * 10 ^ ((trimZeros places m).2 - q) ≤ (trimZeros places m).1 := by
  induction places generalizing m with
  | zero => exact h
  | succ places ih =>
    rw [trimZeros] at hq ⊢
    split at hq
    · next hzero =>
      rw [if_pos hzero]
      have hle := Nat.le_trans hq (trimZeros_snd places _)
      rw [Nat.sub_add_comm hle, Nat.pow_succ] at h
      exact ih hq (by omega)
    · next hnonzero =>
      rw [if_neg hnonzero]
      exact h

theorem le_coefficient_of_near {negative : Bool} {s : Scaled} {d : Decimal96} {q : Nat}
    (hd : ofScaled? negative s = some d) (hexponent : s.exponent ≤ 0) (hpos : 0 < q) (hq : q ≤ d.scale)
    (h : Near ((-s.exponent).toNat - q) s.coefficient) : 5 * 10 ^ (d.scale - q) ≤ d.coefficient := by
  have hgrow : grow? s.exponent.toNat s.coefficient = some s.coefficient := by
    rw [Int.toNat_of_nonpos hexponent]
    rfl
  unfold ofScaled? at hd
  rw [hgrow] at hd
  generalize (-s.exponent).toNat = places at hd h
  have hshrunk (m : Nat) (hm : shrink (places - maxScale) s.coefficient = m) (hplaces : q ≤ min places maxScale) :
      Near (min places maxScale - q) m := by
    rw [← hm]
    refine Near.shrink _ ?_
    rwa [show min places maxScale - q + (places - maxScale) = places - q by omega]
  cases hd
  obtain ⟨hle, hbits⟩ := trimDigits_snd (min places maxScale) (shrink (places - maxScale) s.coefficient)
  have hdigits := Nat.le_trans hq (trimZeros_snd _ _)
  have hmax : (trimDigits (min places maxScale) (shrink (places - maxScale) s.coefficient)).2 ≤ 28 :=
    Nat.le_trans hle (Nat.min_le_right _ _)
  refine le_trimZeros hq (((hshrunk _ rfl (Nat.le_trans hdigits hle)).trimDigits hdigits).le_of_lt (by omega) ?_)
  exact hbits.resolve_left (by omega)

theorem scale_le {negative : Bool} {s : Scaled} {d : Decimal96} (hd : ofScaled? negative s = some d) :
    d.scale ≤ (-s.exponent).toNat := by
  obtain ⟨m, -, hm⟩ := Option.bind_eq_some_iff.mp hd
  cases hm
  exact Nat.le_trans (trimZeros_snd _ _) (Nat.le_trans (trimDigits_snd _ _).1 (Nat.min_le_left _ _))

/-- Doubling leaves no places. -/
theorem exponent_of_double? {steps : Nat} {s t : Scaled} (h : double? steps s = some t)
    (hsteps : (steps : Int) ≤ s.exponent) : 0 ≤ t.exponent := by
  induction steps generalizing s with
  | zero =>
    cases h
    simpa using hsteps
  | succ steps ih =>
    obtain ⟨m, e⟩ := s
    dsimp only at hsteps
    rw [double?] at h
    split at h
    · exact ih h (by dsimp only; omega)
    · split at h
      · cases h
      · exact ih h (by dsimp only; omega)

/-! ### Rounding to zero -/

theorem limit_eq : limit = 79228162514264337593543950336 := by decide

/-- So little is lost that a half, five units of the place behind the last one, is nearly reached. -/
theorem near_of_lower {steps i c : Nat} (hsteps : steps ≤ 1074)
    (h : (limit - 5 * steps) * (5 * 10 ^ i) ≤ limit * c) : Near i c := by
  have hloss : limit * (5 * 10 ^ i) ≤ limit * c + 5370 * (5 * 10 ^ i) := by
    have hfactor : 5 * steps ≤ 5370 := by omega
    rw [Nat.sub_mul] at h
    exact Nat.le_trans (Nat.sub_le_iff_le_add.mp h) (Nat.add_le_add_left (Nat.mul_le_mul_right _ hfactor) _)
  rw [limit_eq] at hloss
  unfold Near
  rcases Nat.lt_or_ge 20 i with hlarge | hsmall
  · obtain ⟨rest, rfl⟩ := Nat.exists_eq_add_of_lt hlarge
    rw [show 20 + rest + 1 - 20 = rest + 1 by omega, Nat.pow_succ 10 rest]
    rw [show 20 + rest + 1 = rest + 21 by omega, Nat.pow_add] at hloss ⊢
    omega
  · have hpow : 10 ^ i ≤ 10 ^ 20 := Nat.pow_le_pow_right (by decide) hsmall
    rw [Nat.sub_eq_zero_of_le hsmall]
    omega

/-- A decimal that is at least five units of the place behind the last one is not rounded to zero. -/
theorem not_roundsToZero {d : Decimal96} {places : Nat}
    (h : places < d.scale → 5 * 10 ^ (d.scale - (places + 1)) ≤ d.coefficient) : ¬ d.RoundsToZero places := by
  rintro ⟨hlt, hzero⟩
  have hhalf := h hlt
  have hunit : Nat.pow 10 (d.scale - places) = 10 ^ (d.scale - (places + 1)) * 10 := by
    rw [Nat.pow_eq, ← Nat.pow_succ, Nat.succ_eq_add_one, show d.scale - (places + 1) + 1 = d.scale - places by omega]
  unfold rounded at hzero
  rw [if_neg (Nat.not_le.mpr hlt), hunit] at hzero
  dsimp only at hzero
  have hpos : 0 < 10 ^ (d.scale - (places + 1)) * 10 := Nat.mul_pos (Nat.pow_pos (by decide)) (by decide)
  generalize 10 ^ (d.scale - (places + 1)) = half at *
  split at hzero
  · exact Nat.succ_ne_zero _ hzero
  · next hdown =>
    have hbelow := (Nat.div_eq_zero_iff_lt hpos).mp hzero
    rw [Nat.mod_eq_of_lt hbelow] at hdown
    omega

theorem two_pow_le_of_half {rank steps places : Nat} (hsteps : steps + Binary64.doublings rank = 1074)
    (hhalf : Binary64.unitsPerOne ≤ 2 * (10 ^ places * Binary64.magnitude rank)) :
    2 ^ steps ≤ 2 * (10 ^ places * Binary64.significand rank) := by
  have hunits : Binary64.unitsPerOne = 2 ^ steps * 2 ^ Binary64.doublings rank := by
    rw [← Nat.pow_add, hsteps]
    exact Nat.one_shiftLeft 1074
  rw [hunits, Binary64.magnitude_eq, ← Nat.mul_assoc (10 ^ places), ← Nat.mul_assoc 2] at hhalf
  exact Nat.le_of_mul_le_mul_right hhalf (Nat.two_pow_pos _)

/-- Half a unit of the last place, in units of the place that the conversion ends with. -/
theorem half_le {steps places i k m : Nat} (hsteps : steps = places + i + 1 + k)
    (h : 2 ^ steps ≤ 2 * (10 ^ places * m)) : 5 * 10 ^ i * 10 ^ k ≤ m * 5 ^ steps := by
  have hpow : 10 ^ steps = 2 ^ steps * 5 ^ steps := Nat.mul_pow 2 5 steps
  have hdigits : 10 ^ steps = 2 * 10 ^ places * (5 * 10 ^ i * 10 ^ k) := by
    rw [hsteps]
    ring
  have hplaces : 0 < 2 * 10 ^ places := Nat.mul_pos (by decide) (Nat.pow_pos (by decide))
  refine Nat.le_of_mul_le_mul_left ?_ hplaces
  calc 2 * 10 ^ places * (5 * 10 ^ i * 10 ^ k)
      = 2 ^ steps * 5 ^ steps := by rw [← hdigits, hpow]
    _ ≤ 2 * (10 ^ places * m) * 5 ^ steps := Nat.mul_le_mul_right _ h
    _ = 2 * 10 ^ places * (m * 5 ^ steps) := by ring

/-- A number that rounding makes zero is below half a unit of the last place. -/
theorem lt_half_of_roundsToZero {negative : Bool} {rank : Fin rankCount} {d : Decimal96} {places : Nat}
    (hd : ofBinary64? (.finite negative rank) = some d) (h : d.RoundsToZero places) :
    2 * (10 ^ places * Binary64.magnitude rank) < Binary64.unitsPerOne := by
  have hplaces := h.1
  unfold ofBinary64? at hd
  dsimp only at hd
  split at hd
  · cases hd
    exact absurd hplaces (Nat.not_lt_zero _)
  split at hd
  · next hexponent =>
    refine Nat.lt_of_not_le fun hge => ?_
    obtain ⟨steps, hsteps⟩ : ∃ steps, steps + Binary64.doublings rank = 1074 :=
      ⟨1074 - Binary64.doublings rank, by omega⟩
    have hstart : (Binary64.doublings rank - 1074 : Int) = -steps := by omega
    rw [hstart, Int.natAbs_neg, Int.natAbs_natCast] at hd
    obtain ⟨k, hend, hlower⟩ := halve_lower steps ⟨Binary64.significand rank, -steps⟩
    dsimp only at hend hlower
    have hscale := scale_le hd
    have hsplit : (-(halve steps ⟨Binary64.significand rank, -steps⟩).exponent).toNat + k = steps := by omega
    have hnonpos : (halve steps ⟨Binary64.significand rank, -steps⟩).exponent ≤ 0 := by omega
    refine not_roundsToZero (fun hlt => le_coefficient_of_near hd hnonpos (Nat.succ_pos places) hlt ?_) h
    obtain ⟨i, hi⟩ := Nat.exists_eq_add_of_lt (Nat.lt_of_lt_of_le hplaces hscale)
    rw [hi, show places + i + 1 - (places + 1) = i by omega]
    refine near_of_lower (show steps ≤ 1074 by omega) ?_
    have hhalf := half_le (show steps = places + i + 1 + k by omega) (two_pow_le_of_half hsteps hge)
    refine Nat.le_of_mul_le_mul_right ?_ (show 0 < 10 ^ k from Nat.pow_pos (by decide))
    calc (limit - 5 * steps) * (5 * 10 ^ i) * 10 ^ k
        = (limit - 5 * steps) * (5 * 10 ^ i * 10 ^ k) := Nat.mul_assoc _ _ _
      _ ≤ (limit - 5 * steps) * (Binary64.significand rank * 5 ^ steps) := Nat.mul_le_mul_left _ hhalf
      _ ≤ _ := hlower
      _ = _ := (Nat.mul_assoc _ _ _).symm
  · next hexponent =>
    obtain ⟨t, ht, hd⟩ := Option.bind_eq_some_iff.mp hd
    have hnonneg := exponent_of_double? ht (by dsimp only; omega)
    have hscale := scale_le hd
    omega

end FormRules.Decimal96
