import Mathlib.Algebra.Order.Ring.Int
import Mathlib.Tactic.IntervalCases
import FormRules.Calendar.Date

/-!
# Days and dates

As in `Date.toDays`, a year begins in March and ends with its leap day. A month has a number among all months,
`monthStart` is the day with which it begins, and the next one begins where its days end (`monthStart_succ`). So
the order of valid dates by year, month and day is the order of their days (`compare_toDays`).

Every day has a date, which is valid (`isValid_ofDays`) and whose day it is (`toDays_ofDays`).
-/

namespace FormRules

/-! ### Orders of whole numbers -/

theorem compare_natCast (m n : Nat) : compare (m : Int) n = compare m n := by
  simp only [Int.compare_eq_ite_lt, Nat.compare_eq_ite_lt, Int.ofNat_lt]

theorem compare_sub_right (a b k : Int) : compare (a - k) (b - k) = compare a b := by
  simp only [Int.compare_eq_ite_lt, Int.sub_lt_sub_right_iff]

/-- The order of numbers with a leading and a trailing part: the leading parts decide unless they are equal. -/
theorem compare_compound {a b c d k : Int} (h : b < d + k) (h' : d < b + k) :
    compare (a * k + b) (c * k + d) = (compare a c).then (compare b d) := by
  rcases lt_trichotomy a c with hac | rfl | hac
  · have hk := mul_le_mul_of_nonneg_right (Int.add_one_le_of_lt hac) (show 0 ≤ k by omega)
    rw [Int.add_mul, Int.one_mul] at hk
    rw [Int.compare_eq_lt.mpr hac, Ordering.lt_then, Int.compare_eq_lt]
    omega
  · rw [Int.compare_eq_eq.mpr rfl, Ordering.eq_then]
    simp only [Int.compare_eq_ite_lt, Int.add_lt_add_iff_left]
  · have hk := mul_le_mul_of_nonneg_right (Int.add_one_le_of_lt hac) (show 0 ≤ k by omega)
    rw [Int.add_mul, Int.one_mul] at hk
    rw [Int.compare_eq_gt.mpr hac, Ordering.gt_then, Int.compare_eq_gt]
    omega

theorem compare_div_mod {k : Int} (hk : 0 < k) (m n : Int) :
    compare m n = (compare (m / k) (n / k)).then (compare (m % k) (n % k)) := by
  have hm := Int.emod_nonneg m (Int.ne_of_gt hk)
  have hm' := Int.emod_lt_of_pos m hk
  have hn := Int.emod_nonneg n (Int.ne_of_gt hk)
  have hn' := Int.emod_lt_of_pos n hk
  rw [← compare_compound (show m % k < n % k + k by omega) (show n % k < m % k + k by omega),
    Int.ediv_mul_add_emod, Int.ediv_mul_add_emod]

namespace Date

theorem isValid_iff {d : Date} :
    d.isValid = true ↔ 1 ≤ d.month ∧ d.month ≤ 12 ∧ 1 ≤ d.day ∧ d.day ≤ daysInMonth d.year d.month := by
  simp only [isValid, Bool.and_eq_true, decide_eq_true_eq, and_assoc]

/-! ### Years and months that begin in March -/

/-- The day with which a year begins. -/
def yearStart (year : Int) : Int := 365 * year + year / 4 - year / 100 + year / 400

theorem yearStart_eq (year : Int) :
    yearStart year = year / 400 * daysPerEra + (year % 400 * 365 + year % 400 / 4 - year % 400 / 100) := by
  simp only [yearStart, daysPerEra]
  omega

/-- The leap day of a year ends the year that began in the March before. -/
theorem yearStart_succ (year : Int) :
    yearStart (year + 1) = yearStart year + (if isLeapYear (year + 1) then 366 else 365) := by
  simp only [yearStart, isLeapYear, Bool.and_eq_true, Bool.or_eq_true, decide_eq_true_eq]
  split <;> omega

/-- The place of a month among all months. -/
def monthNumber (d : Date) : Int := 12 * d.year + d.month - 3

/-- The day with which a month begins. -/
def monthStart (month : Int) : Int := yearStart (month / 12) + daysBeforeMonth (month % 12)

theorem monthStart_of_lt (year month : Int) (hlow : 0 ≤ month) (hhigh : month < 12) :
    monthStart (12 * year + month) = yearStart year + daysBeforeMonth month := by
  rw [monthStart, show (12 * year + month) / 12 = year by omega, show (12 * year + month) % 12 = month by omega]

/-- A valid date, by its year and month from March on. -/
theorem exists_monthNumber {d : Date} (h : d.isValid = true) :
    ∃ year month : Int, 0 ≤ month ∧ month < 12 ∧ d.monthNumber = 12 * year + month ∧
      d.toDays = yearStart year + daysBeforeMonth month + (d.day - 1) - daysToEpoch ∧
      (month < 10 → d.year = year ∧ (d.month : Int) = month + 3) ∧
      (10 ≤ month → d.year = year + 1 ∧ (d.month : Int) = month - 9) := by
  obtain ⟨hfirst, hlast, -⟩ := isValid_iff.mp h
  rcases Nat.lt_or_ge 2 d.month with hlate | hearly
  · refine ⟨d.year, d.month - 3, by omega, by omega, by simp only [monthNumber]; omega, ?_, by omega, by omega⟩
    rw [toDays, if_neg (Nat.not_le_of_lt hlate), if_neg (Nat.not_le_of_lt hlate), yearStart_eq]
  · refine ⟨d.year - 1, d.month + 9, by omega, by omega, by simp only [monthNumber]; omega, ?_, by omega, by omega⟩
    rw [toDays, if_pos hearly, if_pos hearly, yearStart_eq]

theorem toDays_eq {d : Date} (h : d.isValid = true) :
    d.toDays = monthStart d.monthNumber + (d.day - 1) - daysToEpoch := by
  obtain ⟨year, month, hlow, hhigh, hnumber, hdays, -⟩ := exists_monthNumber h
  rw [hdays, hnumber, monthStart_of_lt year month hlow hhigh]

/-- The days of a month lie before the next month. -/
theorem monthStart_succ {d : Date} (h : d.isValid = true) :
    monthStart (d.monthNumber + 1) = monthStart d.monthNumber + daysInMonth d.year d.month := by
  obtain ⟨year, month, hlow, hhigh, hnumber, -, hspring, hwinter⟩ := exists_monthNumber h
  rw [hnumber, monthStart_of_lt year month hlow hhigh, daysInMonth]
  rcases Int.lt_or_le month 11 with hlt | hge
  · rw [Int.add_assoc, monthStart_of_lt year (month + 1) (by omega) (by omega), Int.add_assoc]
    interval_cases month <;> simp only [daysBeforeMonth] <;> split_ifs <;> omega
  · obtain rfl : month = 11 := by omega
    obtain ⟨hyear, hmonth⟩ := hwinter (by decide)
    rw [show 12 * year + 11 + 1 = 12 * (year + 1) + 0 by omega, monthStart_of_lt (year + 1) 0 (by decide) (by decide),
      yearStart_succ, hyear, if_pos (show d.month = 2 by omega)]
    simp only [daysBeforeMonth]
    split_ifs <;> omega

theorem yearStart_mono {year year' : Int} (h : year ≤ year') : yearStart year ≤ yearStart year' := by
  refine monotone_int_of_le_succ (fun year => ?_) h
  rw [yearStart_succ]
  split <;> omega

theorem monthStart_mono {month month' : Int} (h : month ≤ month') : monthStart month ≤ monthStart month' := by
  simp only [monthStart, daysBeforeMonth]
  rcases Int.lt_or_eq_of_le (Int.ediv_le_ediv (by decide : (0 : Int) < 12) h) with hlt | heq
  · have hnext := yearStart_mono (Int.add_one_le_of_lt hlt)
    rw [yearStart_succ] at hnext
    split at hnext <;> omega
  · rw [heq]
    omega

/-! ### The order of dates -/

theorem compare_monthNumber {d e : Date} (hd : d.isValid = true) (he : e.isValid = true) :
    compare d.monthNumber e.monthNumber = (compare d.year e.year).then (compare d.month e.month) := by
  obtain ⟨hd, hd', -⟩ := isValid_iff.mp hd
  obtain ⟨he, he', -⟩ := isValid_iff.mp he
  have hnumber (d : Date) : d.monthNumber = d.year * 12 + (d.month - 3) := by
    simp only [monthNumber]
    omega
  rw [hnumber, hnumber, compare_compound (by omega) (by omega), compare_sub_right, compare_natCast]

theorem toDays_lt {d e : Date} (hd : d.isValid = true) (he : e.isValid = true)
    (h : d.monthNumber < e.monthNumber) : d.toDays < e.toDays := by
  have hmonth := monthStart_mono (Int.add_one_le_of_lt h)
  rw [monthStart_succ hd] at hmonth
  rw [toDays_eq hd, toDays_eq he]
  have hday := (isValid_iff.mp hd).2.2.2
  have hday' := (isValid_iff.mp he).2.2.1
  omega

/-- The order of dates by year, month and day is the order of their days. -/
theorem compare_toDays {d e : Date} (hd : d.isValid = true) (he : e.isValid = true) :
    compare d.toDays e.toDays =
      (compare d.year e.year).then ((compare d.month e.month).then (compare d.day e.day)) := by
  rw [← Ordering.then_assoc, ← compare_monthNumber hd he]
  rcases lt_trichotomy d.monthNumber e.monthNumber with hlt | heq | hgt
  · rw [Int.compare_eq_lt.mpr hlt, Ordering.lt_then, Int.compare_eq_lt]
    exact toDays_lt hd he hlt
  · have hdays (day : Nat) : monthStart e.monthNumber + ((day : Int) - 1) - daysToEpoch =
        day - (1 + daysToEpoch - monthStart e.monthNumber) := by omega
    rw [toDays_eq hd, toDays_eq he, heq, Int.compare_eq_eq.mpr rfl, Ordering.eq_then, hdays, hdays, compare_sub_right,
      compare_natCast]
  · rw [Int.compare_eq_gt.mpr hgt, Ordering.gt_then, Int.compare_eq_gt]
    exact toDays_lt he hd hgt

theorem toDays_bounds {d : Date} (hvalid : d.isValid = true) (hyear : 0 ≤ d.year ∧ d.year ≤ 9999) :
    -719528 ≤ d.toDays ∧ d.toDays ≤ 2932896 := by
  obtain ⟨hfirst, hlast, hday, hday'⟩ := isValid_iff.mp hvalid
  have hlow := monthStart_mono (show -2 ≤ d.monthNumber by simp only [monthNumber]; omega)
  have hhigh := monthStart_mono (show d.monthNumber + 1 ≤ 119998 by simp only [monthNumber]; omega)
  rw [monthStart_succ hvalid] at hhigh
  have hstart : monthStart (-2) = -60 := by decide
  have hend : monthStart 119998 = 3652365 := by decide
  rw [toDays_eq hvalid, daysToEpoch]
  omega

/-! ### The date of a day -/

/-- The date of a day of a year that begins in March. -/
def ofYearDay (year dayOfYear : Int) : Date :=
  let month := (5 * dayOfYear + 2) / 153
  let day := dayOfYear - daysBeforeMonth month + 1
  if month < 10 then ⟨year, (month + 3).toNat, day.toNat⟩ else ⟨year + 1, (month - 9).toNat, day.toNat⟩

theorem isValid_ofYearDay {year day : Int} (hlow : 0 ≤ day)
    (hhigh : day < if isLeapYear (year + 1) then 366 else 365) : (ofYearDay year day).isValid = true := by
  have hlong : day ≤ 365 := by split at hhigh <;> omega
  obtain ⟨month, hmonth⟩ : ∃ month, month = (5 * day + 2) / 153 := ⟨_, rfl⟩
  have hleast : 0 ≤ month := by omega
  have hplace : daysBeforeMonth month ≤ day := by
    rw [daysBeforeMonth]
    omega
  simp only [ofYearDay, ← hmonth]
  split <;> simp only [isValid_iff]
  · next hlt =>
    refine ⟨by omega, by omega, by omega, ?_⟩
    simp only [daysInMonth, daysBeforeMonth]
    interval_cases month <;> simp <;> omega
  · next hge =>
    refine ⟨by omega, by omega, by omega, ?_⟩
    simp only [daysInMonth, daysBeforeMonth]
    obtain rfl | rfl : month = 10 ∨ month = 11 := by omega
    · simp
      omega
    -- only here, at the end of the year, does its length matter
    · rw [if_pos (show (11 - 9 : Int).toNat = 2 from rfl)]
      by_cases hleap : isLeapYear (year + 1) = true
      · rw [if_pos hleap] at hhigh ⊢
        omega
      · rw [if_neg hleap] at hhigh ⊢
        omega

theorem toDays_ofYearDay {year day : Int} (hlow : 0 ≤ day)
    (hhigh : day < if isLeapYear (year + 1) then 366 else 365) :
    (ofYearDay year day).toDays = yearStart year + day - daysToEpoch := by
  have hlong : day ≤ 365 := by split at hhigh <;> omega
  obtain ⟨month, hmonth⟩ : ∃ month, month = (5 * day + 2) / 153 := ⟨_, rfl⟩
  have hplace : daysBeforeMonth month ≤ day := by
    rw [daysBeforeMonth]
    omega
  have hnumber : (ofYearDay year day).monthNumber = 12 * year + month ∧
      ((ofYearDay year day).day : Int) = day - daysBeforeMonth month + 1 := by
    simp only [ofYearDay, ← hmonth, monthNumber]
    split <;> dsimp only <;> omega
  rw [toDays_eq (isValid_ofYearDay hlow hhigh), hnumber.1, hnumber.2,
    monthStart_of_lt year month (by omega) (by omega)]
  omega

/-- Three parts of the same length and a fourth one that may be longer by one, as the centuries of an era and
the years between leap days. -/
theorem quarter_bounds {n k : Int} (hk : 0 < k) (hlow : 0 ≤ n) (hhigh : n ≤ 4 * k) :
    0 ≤ min 3 (n / k) ∧ min 3 (n / k) ≤ 3 ∧ 0 ≤ n - min 3 (n / k) * k ∧
      (n - min 3 (n / k) * k < k ∨ min 3 (n / k) = 3 ∧ n = 4 * k) := by
  have hsplit := Int.mul_ediv_add_emod n k
  have hrest := Int.emod_nonneg n (Int.ne_of_gt hk)
  have hlt := Int.emod_lt_of_pos n hk
  have hquotient := Int.ediv_nonneg hlow (Int.le_of_lt hk)
  rw [Int.mul_comm] at hsplit
  rcases Int.lt_or_le (n / k) 4 with hfew | hmany
  · rw [min_eq_right (by omega)]
    omega
  · have hfull := Int.mul_le_mul_of_nonneg_right hmany (Int.le_of_lt hk)
    rw [min_eq_left (by omega)]
    omega

theorem exists_ofDays (days : Int) :
    ∃ year day : Int, ofDays days = ofYearDay year day ∧ 0 ≤ day ∧
      (day < if isLeapYear (year + 1) then 366 else 365) ∧ days = yearStart year + day - daysToEpoch := by
  have hsplit : (days + daysToEpoch) / daysPerEra * 146097 + (days + daysToEpoch) % daysPerEra = days + daysToEpoch :=
    Int.ediv_mul_add_emod _ _
  have hlow : 0 ≤ (days + daysToEpoch) % daysPerEra := Int.emod_nonneg _ (by decide)
  have hhigh : (days + daysToEpoch) % daysPerEra < 146097 := Int.emod_lt_of_pos _ (by decide)
  refine ⟨_, _, rfl, ?_⟩
  generalize (days + daysToEpoch) / daysPerEra = era at *
  generalize (days + daysToEpoch) % daysPerEra = dayOfEra at *
  obtain ⟨hcentury, hcentury', hday, hday'⟩ := quarter_bounds (show (0 : Int) < 36524 by decide) hlow (by omega)
  generalize min 3 (dayOfEra / 36524) = century at *
  have hcycle := Int.emod_nonneg (dayOfEra - century * 36524) (show (1461 : Int) ≠ 0 by decide)
  obtain ⟨hyear, hyear', hrest, hrest'⟩ := quarter_bounds (show (0 : Int) < 365 by decide) hcycle (by omega)
  generalize min 3 ((dayOfEra - century * 36524) % 1461 / 365) = year at *
  refine ⟨hrest, ?_, ?_⟩
  · simp only [isLeapYear, Bool.and_eq_true, Bool.or_eq_true, decide_eq_true_eq]
    split <;> omega
  · have hmost : 0 ≤ (dayOfEra - century * 36524) / 1461 ∧ (dayOfEra - century * 36524) / 1461 ≤ 24 := by omega
    have hdays := Int.mul_ediv_add_emod (dayOfEra - century * 36524) 1461
    generalize (dayOfEra - century * 36524) / 1461 = cycle at *
    rw [yearStart, show (era * 400 + century * 100 + cycle * 4 + year) / 4 = era * 100 + century * 25 + cycle by omega,
      show (era * 400 + century * 100 + cycle * 4 + year) / 100 = era * 4 + century by omega,
      show (era * 400 + century * 100 + cycle * 4 + year) / 400 = era by omega]
    omega

theorem isValid_ofDays (days : Int) : (ofDays days).isValid = true := by
  obtain ⟨year, day, heq, hlow, hhigh, -⟩ := exists_ofDays days
  rw [heq]
  exact isValid_ofYearDay hlow hhigh

theorem toDays_ofDays (days : Int) : (ofDays days).toDays = days := by
  obtain ⟨year, day, heq, hlow, hhigh, hdays⟩ := exists_ofDays days
  rw [heq, toDays_ofYearDay hlow hhigh, ← hdays]

end Date

end FormRules
