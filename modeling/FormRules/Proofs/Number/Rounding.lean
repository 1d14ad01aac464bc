import Mathlib.Algebra.Group.Nat.Defs
import FormRules.Number.Binary64

/-!
# Rounding to the nearest rank

The magnitude of a rank is its significand doubled some times, and the next magnitude is one more doubled as
often. A fraction that lies between the midpoints to the two neighbours of a rank, ends included where the rank
is even, is rounded to this rank (`nearestRank_eq`). At the lower end of a binade the distance to the neighbour
below is half of that above, so the fraction may lie in the binade below. A magnitude itself is not rounded
(`nearestRank_magnitude`), nor is a whole number of at most 53 bits (`ofNat_exact`).
-/

namespace FormRules.Binary64

theorem binadeSize_eq : binadeSize = 2 ^ 52 := rfl

theorem binadeSize_even : binadeSize % 2 = 0 := by decide

theorem binadeSize_pos : 0 < binadeSize := by decide

/-! ### Ranks and their significands -/

theorem rank_eq (rank : Nat) : rank = doublings rank * binadeSize + significand rank := by
  have hdiv := Nat.div_add_mod rank binadeSize
  unfold doublings significand
  split
  · next h => simp [Nat.div_eq_of_lt h]
  · next h =>
    have hpos : 0 < rank / binadeSize := Nat.div_pos (Nat.le_of_not_lt h) binadeSize_pos
    obtain ⟨quotient, hquotient⟩ := Nat.exists_eq_succ_of_ne_zero (Nat.ne_of_gt hpos)
    rw [hquotient, Nat.mul_succ] at hdiv
    rw [hquotient, Nat.succ_eq_add_one, Nat.add_sub_cancel, Nat.mul_comm]
    omega

theorem significand_lt (rank : Nat) : significand rank < 2 * binadeSize := by
  have hmod := Nat.mod_lt rank binadeSize_pos
  unfold significand
  split <;> omega

/-- Above the first binade the significand has its full length. -/
theorem doublings_eq_zero_or (rank : Nat) : doublings rank = 0 ∨ binadeSize ≤ significand rank := by
  unfold doublings significand
  split
  · next h => simp [Nat.div_eq_of_lt h]
  · exact .inr (Nat.le_add_right _ _)

theorem magnitude_eq (rank : Nat) : magnitude rank = significand rank * 2 ^ doublings rank := Nat.shiftLeft_eq _ _

theorem magnitude_of_lt {rank : Nat} (h : rank < binadeSize) : magnitude rank = rank := by
  simp [magnitude_eq, significand, doublings, h, Nat.div_eq_of_lt h]

theorem magnitude_binade (d : Nat) {rest : Nat} (h : rest < binadeSize) :
    magnitude ((d + 1) * binadeSize + rest) = (binadeSize + rest) * 2 ^ d := by
  have hge : ¬(d + 1) * binadeSize + rest < binadeSize := by
    rw [Nat.succ_mul]
    omega
  have hdiv : ((d + 1) * binadeSize + rest) / binadeSize = d + 1 := by
    rw [Nat.mul_comm, Nat.mul_add_div binadeSize_pos, Nat.div_eq_of_lt h, Nat.add_zero]
  have hmod : ((d + 1) * binadeSize + rest) % binadeSize = rest := by
    rw [Nat.mul_comm, Nat.mul_add_mod, Nat.mod_eq_of_lt h]
  rw [magnitude_eq, significand, doublings, if_neg hge, hdiv, hmod, Nat.add_sub_cancel]

/-- The magnitude of a rank that is given by some doublings and a significand, which may be one too great. -/
theorem magnitude_of_eq {rank d m : Nat} (hrank : rank = d * binadeSize + m) (hm : m ≤ 2 * binadeSize)
    (hd : d = 0 ∨ binadeSize ≤ m) : magnitude rank = m * 2 ^ d := by
  rcases Nat.lt_or_ge m binadeSize with hlt | hge
  · obtain rfl : d = 0 := hd.resolve_right (Nat.not_le_of_lt hlt)
    rw [Nat.zero_mul, Nat.zero_add] at hrank
    rw [hrank, magnitude_of_lt hlt, Nat.pow_zero, Nat.mul_one]
  · obtain ⟨rest, rfl⟩ := Nat.exists_eq_add_of_le hge
    rcases Nat.lt_or_ge rest binadeSize with hlt | hfull
    · rw [← magnitude_binade d hlt, hrank, Nat.succ_mul, Nat.add_assoc]
    · obtain rfl : rest = binadeSize := Nat.le_antisymm (by omega) hfull
      have hnext : rank = (d + 1 + 1) * binadeSize + 0 := by
        rw [hrank, Nat.succ_mul, Nat.succ_mul]
        omega
      rw [hnext, magnitude_binade (d + 1) binadeSize_pos, Nat.add_zero, Nat.pow_succ, ← Nat.two_mul]
      rw [Nat.mul_comm (2 ^ d), ← Nat.mul_assoc, Nat.mul_comm binadeSize]

/-- The distance to the next magnitude. -/
theorem magnitude_succ (rank : Nat) : magnitude (rank + 1) = magnitude rank + 2 ^ doublings rank := by
  have hrank := rank_eq rank
  have hlt := significand_lt rank
  have hsucc : rank + 1 = doublings rank * binadeSize + (significand rank + 1) := by omega
  rw [magnitude_of_eq hsucc hlt ((doublings_eq_zero_or rank).imp_right Nat.le_succ_of_le), magnitude_eq rank,
    Nat.succ_mul]

theorem magnitude_lt_succ (rank : Nat) : magnitude rank < magnitude (rank + 1) := by
  rw [magnitude_succ]
  exact Nat.lt_add_of_pos_right (Nat.two_pow_pos _)

theorem magnitude_mono {low high : Nat} (h : low ≤ high) : magnitude low ≤ magnitude high := by
  induction h with
  | refl => exact Nat.le_refl _
  | step _ ih => exact Nat.le_trans ih (Nat.le_of_lt (magnitude_lt_succ _))

/-! ### The nearest whole number -/

theorem divToEven_eq {num den k : Nat} (hden : 0 < den) (hlow : 2 * (k * den) ≤ 2 * num + den)
    (hhigh : 2 * num ≤ 2 * (k * den) + den)
    (hodd : k % 2 = 1 → 2 * (k * den) < 2 * num + den ∧ 2 * num < 2 * (k * den) + den) :
    divToEven num den = k := by
  have hnum := Nat.div_add_mod num den
  have hmod := Nat.mod_lt num hden
  rw [Nat.mul_comm] at hnum
  unfold divToEven
  dsimp only
  generalize num / den = q at hnum ⊢
  generalize num % den = rest at hnum hmod ⊢
  have hk : k = q ∨ k = q + 1 := by
    rcases Nat.lt_or_ge k q with hlt | hge
    · have := Nat.mul_le_mul_right den (Nat.succ_le_of_lt hlt)
      rw [Nat.succ_mul] at this
      omega
    · rcases Nat.lt_or_ge (q + 1) k with hlt | hle
      · have := Nat.mul_le_mul_right den (Nat.succ_le_of_lt hlt)
        rw [Nat.succ_mul, Nat.succ_mul] at this
        omega
      · omega
  rcases hk with rfl | rfl
  · rw [if_pos]
    omega
  · have hsucc : (q + 1) * den = q * den + den := Nat.succ_mul q den
    rw [hsucc] at hlow hhigh hodd
    rw [if_neg]
    omega

theorem log2_sub_eq {num den d : Nat} (hden : 0 < den) (hlt : num < den * 2 ^ (d + 53))
    (hge : d = 0 ∨ den * 2 ^ (d + 52) ≤ num) : Nat.log2 (num / den) - 52 = d := by
  have hquotient : num / den < 2 ^ (d + 53) := Nat.div_lt_of_lt_mul hlt
  rcases Nat.eq_zero_or_pos (num / den) with hzero | hpos
  · rcases hge with rfl | hge
    · simp [hzero]
    · have hone : den ≤ num := Nat.le_trans (Nat.le_mul_of_pos_right den (Nat.two_pow_pos _)) hge
      have := Nat.div_pos hone hden
      omega
  · have hne : num / den ≠ 0 := Nat.ne_of_gt hpos
    have hupper := (Nat.log2_lt hne).mpr hquotient
    rcases hge with rfl | hge
    · omega
    · rw [Nat.mul_comm] at hge
      have := (Nat.le_log2 hne).mpr ((Nat.le_div_iff_mul_le hden).mpr hge)
      omega

/-! ### The nearest rank -/

/-- The fraction `num / den` is at least as near to the magnitude of the rank as to its neighbours, and nearer
if the rank is odd. -/
structure Nearest (rank num den : Nat) : Prop where
  low : (magnitude (rank - 1) + magnitude rank) * den ≤ 2 * num
  high : 2 * num ≤ (magnitude rank + magnitude (rank + 1)) * den
  odd : rank % 2 = 1 → (magnitude (rank - 1) + magnitude rank) * den < 2 * num ∧
    2 * num < (magnitude rank + magnitude (rank + 1)) * den

/-- A rank is nearest to its own magnitude. -/
theorem nearest_exact {rank den : Nat} (hden : 0 < den) : Nearest rank (magnitude rank * den) den := by
  have hpred : magnitude (rank - 1) ≤ magnitude rank := magnitude_mono (Nat.sub_le rank 1)
  have hsucc := magnitude_lt_succ rank
  constructor
  · rw [← Nat.mul_assoc]
    exact Nat.mul_le_mul_right _ (by omega)
  · rw [← Nat.mul_assoc]
    exact Nat.mul_le_mul_right _ (by omega)
  · intro hodd
    have hbelow := magnitude_lt_succ (rank - 1)
    rw [Nat.sub_add_cancel (by omega)] at hbelow
    rw [← Nat.mul_assoc]
    exact ⟨Nat.mul_lt_mul_of_pos_right (by omega) hden, Nat.mul_lt_mul_of_pos_right (by omega) hden⟩

theorem le_magnitude_pred (rank : Nat) : magnitude rank ≤ magnitude (rank - 1) + 2 ^ doublings rank := by
  cases rank with
  | zero => exact Nat.le_trans (Nat.le_of_eq (by decide)) (Nat.le_add_right _ _)
  | succ rank =>
    rw [magnitude_succ, Nat.add_sub_cancel]
    exact Nat.add_le_add_left (Nat.pow_le_pow_right Nat.two_pos
      (Nat.sub_le_sub_right (Nat.div_le_div_right (Nat.le_succ rank)) 1)) _

theorem mod_two_eq (rank : Nat) : rank % 2 = significand rank % 2 := by
  have heven : doublings rank * binadeSize % 2 = 0 := by
    rw [Nat.mul_mod, binadeSize_even, Nat.mul_zero, Nat.zero_mod]
  have := rank_eq rank
  omega

/-- The bounds in units of the last binary digit of the rank. -/
theorem Nearest.bounds {rank num den : Nat} (h : Nearest rank num den) :
    2 * (significand rank * (den * 2 ^ doublings rank)) ≤ 2 * num + den * 2 ^ doublings rank ∧
      2 * num ≤ 2 * (significand rank * (den * 2 ^ doublings rank)) + den * 2 ^ doublings rank ∧
      (significand rank % 2 = 1 →
        2 * (significand rank * (den * 2 ^ doublings rank)) < 2 * num + den * 2 ^ doublings rank ∧
          2 * num < 2 * (significand rank * (den * 2 ^ doublings rank)) + den * 2 ^ doublings rank) := by
  obtain ⟨hlow, hhigh, hodd⟩ := h
  have hpred := Nat.mul_le_mul_right den (le_magnitude_pred rank)
  have hvalue : magnitude rank * den = significand rank * (den * 2 ^ doublings rank) := by
    rw [magnitude_eq, Nat.mul_assoc, Nat.mul_comm den]
  rw [mod_two_eq, magnitude_succ] at hodd
  rw [magnitude_succ] at hhigh
  simp only [Nat.add_mul, Nat.mul_comm (2 ^ doublings rank) den, hvalue] at hlow hhigh hodd hpred
  refine ⟨by omega, by omega, fun hsig => ?_⟩
  have := hodd hsig
  omega

theorem nearestRank_of_shift {num den d m : Nat} (hshift : Nat.log2 (num / den) - 52 = d)
    (hdigits : divToEven num (den * 2 ^ d) = m) : nearestRank num den = d * binadeSize + m := by
  rw [nearestRank, hshift, Nat.shiftLeft_eq, hdigits]

theorem Nearest.lt_twice {rank num den : Nat} (hden : 0 < den) (h : Nearest rank num den) :
    num < den * 2 ^ (doublings rank + 53) := by
  have hunit : 0 < den * 2 ^ doublings rank := Nat.mul_pos hden (Nat.two_pow_pos _)
  have hsig := Nat.mul_le_mul_right (den * 2 ^ doublings rank) (significand_lt rank)
  have hpow : den * 2 ^ (doublings rank + 53) = 2 * binadeSize * (den * 2 ^ doublings rank) := by
    rw [binadeSize_eq, ← Nat.pow_succ', Nat.pow_add, ← Nat.mul_assoc, Nat.mul_comm]
  have := h.bounds.2.1
  rw [Nat.succ_mul] at hsig
  omega

/-- A fraction below the binade of the rank that is nearest to it: the rank is the first of its binade. -/
theorem Nearest.below {rank num den : Nat} (hden : 0 < den) (h : Nearest rank num den)
    (hbelow : num < den * 2 ^ (doublings rank + 52)) (hpos : 0 < doublings rank) :
    nearestRank num den = rank := by
  obtain ⟨d, hd⟩ := Nat.exists_eq_add_one_of_ne_zero (Nat.ne_of_gt hpos)
  have hge : binadeSize ≤ significand rank := (doublings_eq_zero_or rank).resolve_left (Nat.ne_of_gt hpos)
  have hrank := rank_eq rank
  rw [hd] at hbelow hrank
  have hfull (d : Nat) : den * 2 ^ (d + 52) = binadeSize * (den * 2 ^ d) := by
    rw [binadeSize_eq, Nat.pow_add, ← Nat.mul_assoc, Nat.mul_comm]
  have hhalf : den * 2 ^ (d + 1) = 2 * (den * 2 ^ d) := by
    rw [Nat.pow_succ, ← Nat.mul_assoc, Nat.mul_comm]
  -- a greater significand would leave the midpoint to the neighbour below in the binade
  have hsig : significand rank = binadeSize := by
    refine Nat.le_antisymm (Nat.le_of_not_lt fun hlt => ?_) hge
    have hpred : rank - 1 = (d + 1) * binadeSize + (significand rank - 1) := by omega
    have hvalue := magnitude_of_eq hpred (by have := significand_lt rank; omega) (.inr (by omega))
    have hlow := h.low
    rw [hvalue, magnitude_eq, hd, ← Nat.add_mul, Nat.mul_assoc, Nat.mul_comm _ den] at hlow
    have hfactor : 2 * binadeSize + 1 ≤ significand rank - 1 + significand rank := by omega
    have hbounds := Nat.le_trans (Nat.mul_le_mul_right (den * 2 ^ (d + 1)) hfactor) hlow
    rw [Nat.succ_mul, Nat.mul_assoc] at hbounds
    rw [hfull] at hbelow
    omega
  have hpred : rank - 1 = d * binadeSize + (2 * binadeSize - 1) := by
    have := binadeSize_pos
    rw [Nat.succ_mul] at hrank
    omega
  have hlow := h.low
  rw [magnitude_of_eq hpred (Nat.sub_le _ _) (.inr (by omega)), magnitude_eq, hd, hsig, Nat.add_mul, Nat.mul_assoc,
    Nat.mul_assoc, Nat.mul_comm (2 ^ d), Nat.mul_comm (2 ^ (d + 1)), hhalf, Nat.sub_mul, Nat.one_mul] at hlow
  have hunits : binadeSize * (2 * (den * 2 ^ d)) = 2 * binadeSize * (den * 2 ^ d) := by
    rw [Nat.mul_left_comm, ← Nat.mul_assoc]
  have hunit : den * 2 ^ d ≤ binadeSize * (den * 2 ^ d) := Nat.le_mul_of_pos_left _ binadeSize_pos
  have hshift : Nat.log2 (num / den) - 52 = d := by
    refine log2_sub_eq hden hbelow (.inr ?_)
    rw [hfull]
    rw [Nat.mul_assoc] at hunits hlow
    omega
  have hdigits : divToEven num (den * 2 ^ d) = 2 * binadeSize := by
    rw [hfull, hhalf, hunits] at hbelow
    refine divToEven_eq (Nat.mul_pos hden (Nat.two_pow_pos d)) (by omega) (by omega) fun hodd => ?_
    exact absurd hodd (by omega)
  rw [nearestRank_of_shift hshift hdigits, hrank, hsig, Nat.two_mul, ← Nat.add_assoc, Nat.add_mul, Nat.one_mul]

theorem nearestRank_eq {rank num den : Nat} (hden : 0 < den) (h : Nearest rank num den) :
    nearestRank num den = rank := by
  have hunit : 0 < den * 2 ^ doublings rank := Nat.mul_pos hden (Nat.two_pow_pos _)
  rcases Nat.lt_or_ge num (den * 2 ^ (doublings rank + 52)) with hbelow | hge
  · rcases Nat.eq_zero_or_pos (doublings rank) with hzero | hpos
    · rw [nearestRank_of_shift (log2_sub_eq hden (h.lt_twice hden) (.inl hzero))
        (divToEven_eq hunit h.bounds.1 h.bounds.2.1 h.bounds.2.2), ← rank_eq]
    · exact h.below hden hbelow hpos
  · rw [nearestRank_of_shift (log2_sub_eq hden (h.lt_twice hden) (.inr hge))
      (divToEven_eq hunit h.bounds.1 h.bounds.2.1 h.bounds.2.2), ← rank_eq]

/-! ### Whole numbers -/

theorem nearestRank_magnitude (rank : Nat) : nearestRank (magnitude rank) 1 = rank := by
  have h : Nearest rank (magnitude rank * 1) 1 := nearest_exact Nat.one_pos
  rw [Nat.mul_one] at h
  exact nearestRank_eq Nat.one_pos h

/-- The rank of a whole number of at most 53 bits. -/
theorem exists_rank_of_lt {n : Nat} (h : n < 2 ^ 53) : ∃ rank < rankCount, magnitude rank = n * unitsPerOne := by
  rcases Nat.eq_zero_or_pos n with rfl | hpos
  · exact ⟨0, by decide, by rw [Nat.zero_mul]; decide⟩
  -- the bits of the number, moved to the front of the significand
  obtain ⟨zeros, hzeros⟩ : ∃ zeros, zeros + Nat.log2 n = 52 :=
    ⟨52 - Nat.log2 n, Nat.sub_add_cancel (Nat.lt_succ_iff.mp ((Nat.log2_lt (Nat.ne_of_gt hpos)).mpr h))⟩
  have hlow : binadeSize ≤ n * 2 ^ zeros := by
    rw [binadeSize_eq, ← hzeros, Nat.add_comm, Nat.pow_add]
    exact Nat.mul_le_mul_right _ (Nat.log2_self_le (Nat.ne_of_gt hpos))
  have hhigh : n * 2 ^ zeros < 2 * binadeSize := by
    rw [binadeSize_eq, ← hzeros, Nat.add_comm, Nat.pow_add, ← Nat.mul_assoc, ← Nat.pow_succ']
    exact Nat.mul_lt_mul_of_pos_right Nat.lt_log2_self (Nat.two_pow_pos _)
  obtain ⟨d, hd⟩ : ∃ d, zeros + d = 1074 := ⟨1074 - zeros, Nat.add_sub_cancel' (by omega)⟩
  have hunits : 2 ^ zeros * 2 ^ d = unitsPerOne := by rw [unitsPerOne, ← hd, Nat.one_shiftLeft, Nat.pow_add]
  refine ⟨d * binadeSize + n * 2 ^ zeros, ?_, ?_⟩
  · have hbinades := Nat.mul_le_mul_right binadeSize (show d ≤ 1074 by omega)
    rw [rankCount]
    omega
  · rw [magnitude_of_eq rfl (Nat.le_of_lt hhigh) (.inr hlow), Nat.mul_assoc, hunits]

/-- A whole number of at most 53 bits is not rounded. -/
theorem ofNat_exact {n : Nat} (h : n < 2 ^ 53) :
    (ofNat n).isWhole = true ∧ (ofNat n).wholePart? = some (n : Int) := by
  obtain ⟨rank, hrank, hmagnitude⟩ := exists_rank_of_lt h
  have hof : ofNat n = finite false ⟨rank, hrank⟩ := by
    have hnearest : nearestRank (n * unitsPerOne) 1 = rank := by rw [← hmagnitude, nearestRank_magnitude]
    rw [ofNat, ofInt, ofUnits]
    simp only [Int.natAbs_natCast, hnearest, hrank]
    simp
  have hunits : 0 < unitsPerOne := by decide
  rw [hof, isWhole, wholePart?]
  simp only [hmagnitude]
  rw [Nat.mul_mod_left, Nat.mul_div_cancel _ hunits]
  exact ⟨rfl, rfl⟩

end FormRules.Binary64
