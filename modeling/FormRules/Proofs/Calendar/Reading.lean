import Mathlib.Data.List.TakeDrop
import FormRules.Calendar.Reader
import FormRules.Number.Pattern
import FormRules.Proofs.Calendar.Digits
import FormRules.Proofs.Formula.Lexing
import FormRules.Proofs.Number.Pattern

/-!
# Reading dates and instants that were written

The text of an instant is a date and a moment of the day, numbers of fixed width with marks between them. A number
is read back with what follows it (`takeNumber?_padded`), so the text of an instant with a year of four digits is
read as the instant without what is beyond the millisecond (`readInstant?_text`) and that of a date as the first
instant of its day (`readInstant?_date`). Neither is the text of a number (`Date.wholeNumber?_chars`).
-/

namespace FormRules

open Text (isBlank trimStart)
open Formula.Lexeme (isBlank_of_isDigit)

namespace Calendar

open Date (padded)

theorem bind_of_eq_some {α β : Type} {x : Option α} {a : α} (h : x = some a) (f : α → Option β) : x >>= f = f a := by
  rw [h]
  rfl

theorem skip?_cons (c : Char) (rest : List Char) : skip? c (c :: rest) = some rest := if_pos rfl

theorem takeNumber?_padded {least width n : Nat} (hleast : least ≤ width) (hwidth : 0 < width) (hn : n < 10 ^ width)
    (rest : List Char) : takeNumber? least width ((padded width n).toList ++ rest) = some (n, rest) := by
  have hlength := Date.length_padded hwidth hn
  have hdigits : ((padded width n).toList ++ rest).take width = (padded width n).toList := by
    rw [List.take_left' hlength]
  have hall : (padded width n).toList.takeWhile Char.isDigit = (padded width n).toList :=
    List.takeWhile_eq_self_iff.mpr fun _ => Date.isDigit_of_mem_padded
  rw [takeNumber?, hdigits, hall, hlength, if_neg (Nat.not_lt_of_le hleast), Date.ofDigitChars_padded,
    List.drop_left' hlength]

theorem takeNumber?_two {n : Nat} (hn : n < 100) (rest : List Char) :
    takeNumber? 2 2 ((padded 2 n).toList ++ rest) = some (n, rest) :=
  takeNumber?_padded (Nat.le_refl 2) (by decide) hn rest

theorem takeNumber?_four {n : Nat} (hn : n < 10000) (rest : List Char) :
    takeNumber? 4 4 ((padded 4 n).toList ++ rest) = some (n, rest) :=
  takeNumber?_padded (Nat.le_refl 4) (by decide) hn rest

theorem exists_padded_cons {width n : Nat} (hwidth : 0 < width) (hn : n < 10 ^ width) :
    ∃ c tail, (padded width n).toList = c :: tail ∧ c.isDigit = true := by
  obtain ⟨c, tail, hcons⟩ := List.exists_cons_of_length_pos (hwidth.trans_eq (Date.length_padded hwidth hn).symm)
  exact ⟨c, tail, hcons, Date.isDigit_of_mem_padded (hcons ▸ List.mem_cons_self)⟩

theorem trimStart_padded {width n : Nat} (hwidth : 0 < width) (hn : n < 10 ^ width) (rest : List Char) :
    trimStart ((padded width n).toList ++ rest) = (padded width n).toList ++ rest := by
  obtain ⟨c, tail, hcons, hc⟩ := exists_padded_cons hwidth hn
  rw [hcons]
  refine Text.trimStart_of_head ?_
  rintro _ ⟨⟩
  exact isBlank_of_isDigit hc

theorem takePart?_padded {n : Nat} (hn : n < 100) (rest : List Char) :
    takePart? ((padded 2 n).toList ++ rest) = some (n, rest) := by
  rw [takePart?, trimStart_padded (by decide) hn, takeNumber?_padded (by decide) (by decide) hn]

theorem takeYear?_padded {n : Nat} (hn : n < 10000) (rest : List Char) :
    takeYear? ((padded 4 n).toList ++ rest) = some ((n : Int), rest) := by
  have hnumber := takeNumber?_padded (show 1 ≤ 4 by decide) (by decide) hn rest
  obtain ⟨c, tail, hcons, hc⟩ := exists_padded_cons (show 0 < 4 by decide) hn
  rw [takeYear?, trimStart_padded (by decide) hn]
  rw [hcons] at hnumber ⊢
  split
  · next heq =>
    cases heq
    exact absurd hc (by decide)
  · next heq =>
    cases heq
    exact absurd hc (by decide)
  · rw [hnumber]
    rfl

end Calendar

/-! ### Texts of dates -/

namespace Date

/-- The characters of a date whose year has four digits. -/
def chars (d : Date) : List Char :=
  (padded 4 d.year.natAbs).toList ++ '-' :: ((padded 2 d.month).toList ++ '-' :: (padded 2 d.day).toList)

theorem toList_text {d : Date} (h : 0 ≤ d.year ∧ d.year ≤ 9999) : d.text.toList = d.chars := by
  simp [text, yearText, h, chars]

/-- Month and day of a valid date have two digits. -/
theorem lt_of_isValid {d : Date} (hvalid : d.isValid = true) : d.month < 100 ∧ d.day < 100 := by
  obtain ⟨hfirst, hlast, -, hday⟩ := isValid_iff.mp hvalid
  simp only [daysInMonth] at hday
  refine ⟨by omega, ?_⟩
  split_ifs at hday <;> omega

theorem isSupported_of_year {d : Date} (h : 0 ≤ d.year ∧ d.year ≤ 9999) : d.isSupported = true := by
  obtain ⟨hlow, hhigh⟩ := h
  have hmin : minYear ≤ d.year := Int.le_trans (by decide) hlow
  have hmax : d.year ≤ maxYear := Int.le_trans hhigh (by decide)
  simp [isSupported, hmin, hmax]

end Date

theorem Instant.eq_of_nanos {s t : Instant} (hnanos : s.nanos = t.nanos) (hleap : s.leap = t.leap) : s = t := by
  cases s
  cases t
  congr

theorem Instant.minutesBefore_zero (t : Instant) : t.minutesBefore 0 = t :=
  eq_of_nanos (by simp [minutesBefore]) rfl

namespace Calendar

open Date (padded)

section

variable {d : Date} (hvalid : d.isValid = true) (hyear : 0 ≤ d.year ∧ d.year ≤ 9999)

include hvalid hyear

theorem takeDate?_chars (rest : List Char) : takeDate? (d.chars ++ rest) = some (d, rest) := by
  obtain ⟨hmonth, hday⟩ := Date.lt_of_isValid hvalid
  have habs : (d.year.natAbs : Int) = d.year := by omega
  simp only [takeDate?, Date.chars, List.append_assoc, List.cons_append]
  simp [takeYear?_padded (show d.year.natAbs < 10000 by omega), skip?_cons, takePart?_padded hmonth,
    takePart?_padded hday, habs]

/-- In the first notation a time has to follow a date. -/
theorem readOffsetInstant?_date : readOffsetInstant? d.chars = none := by
  obtain ⟨hmonth, hday⟩ := Date.lt_of_isValid hvalid
  have hend := takeNumber?_two hday []
  rw [List.append_nil] at hend
  rw [readOffsetInstant?, Date.chars]
  refine (bind_of_eq_some (takeNumber?_four (show d.year.natAbs < 10000 by omega) _) _).trans ?_
  refine (bind_of_eq_some (skip?_cons '-' _) _).trans ?_
  refine (bind_of_eq_some (takeNumber?_two hmonth _) _).trans ?_
  refine (bind_of_eq_some (skip?_cons '-' _) _).trans ?_
  exact bind_of_eq_some hend _

theorem readInstant?_date : readInstant? d.chars = some (.ofDate d) := by
  have htake := takeDate?_chars hvalid hyear []
  rw [List.append_nil] at htake
  have hlocal : readLocalInstant? d.chars = none := by simp [readLocalInstant?, htake, skip?]
  have hdate : readDate? d.chars = some (.ofDate d) := by
    have hnanos : ((d.toDays * 24 * 60) * 60) * 1000000000 = d.toDays * Instant.millisPerDay * 1000000 := by
      simp only [Instant.millisPerDay]
      omega
    simp [readDate?, htake, Moment.instant?, hvalid, Date.isSupported_of_year hyear, Instant.ofDate, Instant.ofMillis,
      hnanos]
  rw [readInstant?, readOffsetInstant?_date hvalid hyear, hlocal, hdate]
  rfl

end

/-- The parts of a moment are in range and have the width in which they are written, with whole milliseconds. -/
structure Moment.Written (m : Moment) : Prop where
  valid : m.date.isValid = true
  year : 0 ≤ m.date.year ∧ m.date.year ≤ 9999
  hour : m.hour ≤ 23
  minute : m.minute ≤ 59
  second : m.second ≤ 60
  nanos : m.nanos < 1000000000
  whole : m.nanos % 1000000 = 0

/-- The characters of a date and a time. -/
def Moment.chars (m : Moment) : List Char :=
  m.date.chars ++ 'T' :: ((padded 2 m.hour).toList ++ ':' :: ((padded 2 m.minute).toList ++ ':' ::
    ((padded 2 m.second).toList ++ '.' :: ((padded 3 (m.nanos / 1000000)).toList ++ ['Z']))))

theorem takeFraction?_padded {n : Nat} (hn : n < 1000) :
    takeFraction? ('.' :: ((padded 3 n).toList ++ ['Z'])) = some (n * 1000000, ['Z']) := by
  have hlength := Date.length_padded (show 0 < 3 by decide) hn
  have htake : ((padded 3 n).toList ++ ['Z']).takeWhile Char.isDigit = (padded 3 n).toList := by
    rw [List.takeWhile_append_of_pos fun _ => Date.isDigit_of_mem_padded]
    simp
  have hdrop : ((padded 3 n).toList ++ ['Z']).dropWhile Char.isDigit = ['Z'] := by
    rw [List.dropWhile_append_of_pos fun _ => Date.isDigit_of_mem_padded]
    rfl
  have hne : (padded 3 n).toList.isEmpty = false := by
    rw [List.isEmpty_eq_false_iff, ← List.length_pos_iff, hlength]
    decide
  simp only [takeFraction?, htake, hdrop, hne]
  rw [List.take_of_length_le (hlength.le.trans (by decide)), hlength, Date.ofDigitChars_padded]
  rfl

theorem readOffsetInstant?_chars {m : Moment} (h : m.Written) : readOffsetInstant? m.chars = m.instant? := by
  obtain ⟨hvalid, hyear, hhour, hminute, hsecond, hnanos, hwhole⟩ := h
  obtain ⟨hmonth, hday⟩ := Date.lt_of_isValid hvalid
  have hfraction : m.nanos / 1000000 * 1000000 = m.nanos := Nat.div_mul_cancel (Nat.dvd_of_mod_eq_zero hwhole)
  have habs : (m.date.year.natAbs : Int) = m.date.year := by omega
  simp only [Moment.chars, Date.chars, List.append_assoc, List.cons_append]
  rw [readOffsetInstant?]
  -- part by part: a `simp` would go through what is left of the reader at each step
  refine (bind_of_eq_some (takeNumber?_four (show m.date.year.natAbs < 10000 by omega) _) _).trans ?_
  refine (bind_of_eq_some (skip?_cons '-' _) _).trans ?_
  refine (bind_of_eq_some (takeNumber?_two hmonth _) _).trans ?_
  refine (bind_of_eq_some (skip?_cons '-' _) _).trans ?_
  refine (bind_of_eq_some (takeNumber?_two hday _) _).trans ?_
  refine (if_pos (.inl rfl)).trans ?_
  refine (bind_of_eq_some rfl _).trans ?_
  refine (bind_of_eq_some (takeNumber?_two (show m.hour < 100 by omega) _) _).trans ?_
  refine (bind_of_eq_some (skip?_cons ':' _) _).trans ?_
  refine (bind_of_eq_some (takeNumber?_two (show m.minute < 100 by omega) _) _).trans ?_
  refine (bind_of_eq_some (skip?_cons ':' _) _).trans ?_
  refine (bind_of_eq_some (takeNumber?_two (show m.second < 100 by omega) _) _).trans ?_
  refine (bind_of_eq_some (takeFraction?_padded (show m.nanos / 1000000 < 1000 by omega)) _).trans ?_
  refine (bind_of_eq_some (show readOffset? ['Z'] = some 0 from rfl) _).trans ?_
  simp only [habs, hfraction, Instant.minutesBefore_zero]
  exact bind_pure (m := Option) m.instant?

end Calendar

/-! ### Texts of instants -/

namespace Instant

open Calendar (Moment readInstant?)

/-- The instant without what is beyond the millisecond. -/
def floorMillis (t : Instant) : Instant where
  nanos := t.millis * 1000000
  leap := t.leap
  second_of_leap h := by have := t.second_of_leap h; simp only [millis]; omega

theorem millis_ofMillis (millis : Int) : (ofMillis millis).millis = millis := Int.mul_ediv_cancel _ (by decide)

theorem millis_floorMillis (t : Instant) : t.floorMillis.millis = t.millis := Int.mul_ediv_cancel _ (by decide)

theorem floorMillis_of_whole {t : Instant} (h : t.nanos % 1000000 = 0) : t.floorMillis = t :=
  eq_of_nanos (Int.ediv_mul_cancel (Int.dvd_of_emod_eq_zero h)) rfl

/-- The date and the time that the text of an instant gives. -/
def moment (t : Instant) : Moment where
  date := t.date
  hour := (t.clockMillis % millisPerDay).natAbs / 3600000
  minute := (t.clockMillis % millisPerDay).natAbs / 60000 % 60
  second := (t.clockMillis % millisPerDay).natAbs / 1000 % 60 + t.leap.toNat
  nanos := (t.clockMillis % millisPerDay).natAbs % 1000 * 1000000

/-- In a leap second the clock stands at the last second of a minute. -/
theorem clockMillis_of_leap {t : Instant} (h : t.leap = true) :
    t.clockMillis = t.millis - 1000 ∧ t.clockMillis / 1000 % 60 = 59 := by
  have hsecond := t.second_of_leap h
  rw [clockMillis, clockNanos, if_pos h, millis]
  omega

theorem clockMillis_of_not_leap {t : Instant} (h : t.leap = false) : t.clockMillis = t.millis := by
  rw [clockMillis, clockNanos, h]
  rfl

theorem isValid_date (t : Instant) : t.date.isValid = true := Date.isValid_ofDays _

theorem toDays_date (t : Instant) : t.date.toDays = t.dayNumber := Date.toDays_ofDays _

theorem moment_bounds (t : Instant) :
    t.moment.hour ≤ 23 ∧ t.moment.minute ≤ 59 ∧ t.moment.second ≤ 60 ∧ t.moment.nanos < 1000000000 := by
  have hhigh : t.clockMillis % millisPerDay < 86400000 := Int.emod_lt_of_pos _ (by decide)
  have hlow : 0 ≤ t.clockMillis % millisPerDay := Int.emod_nonneg _ (by decide)
  have hleap : t.leap.toNat ≤ 1 := Bool.toNat_le _
  simp only [moment]
  omega

theorem written_moment {t : Instant} (h : 0 ≤ t.date.year ∧ t.date.year ≤ 9999) : t.moment.Written := by
  obtain ⟨hhour, hminute, hsecond, hnanos⟩ := t.moment_bounds
  exact ⟨t.isValid_date, h, hhour, hminute, hsecond, hnanos, Nat.mul_mod_left _ _⟩

theorem instant?_moment {t : Instant} (h : 0 ≤ t.date.year ∧ t.date.year ≤ 9999) :
    t.moment.instant? = some t.floorMillis := by
  obtain ⟨hvalid, hyear, hhour, hminute, hsecond, -⟩ := written_moment h
  have hdays : t.moment.date.toDays = t.clockMillis / 86400000 := toDays_date t
  rw [Moment.instant?, if_pos (by simp [hvalid, Date.isSupported_of_year hyear, hhour, hminute, hsecond]), hdays]
  simp only [moment, millisPerDay] at hsecond ⊢
  rcases Bool.eq_false_or_eq_true t.leap with hleap | hleap
  · obtain ⟨hclock, hlast⟩ := clockMillis_of_leap hleap
    simp only [hleap, Bool.toNat_true]
    rw [if_pos (by omega), Option.some_inj]
    refine eq_of_nanos ?_ hleap.symm
    simp only [ofLeapSecond, floorMillis]
    omega
  · have hclock := clockMillis_of_not_leap hleap
    simp only [hleap, Bool.toNat_false]
    rw [if_neg (by omega), Option.some_inj]
    refine eq_of_nanos ?_ hleap.symm
    simp only [ofNanos, floorMillis]
    omega

theorem toList_text {t : Instant} (h : 0 ≤ t.date.year ∧ t.date.year ≤ 9999) : t.text.toList = t.moment.chars := by
  simp [text, timeText, Date.toList_text h, Moment.chars, moment]

theorem readInstant?_text {t : Instant} (h : 0 ≤ t.date.year ∧ t.date.year ≤ 9999) :
    readInstant? t.text.toList = some t.floorMillis := by
  rw [readInstant?, toList_text h, Calendar.readOffsetInstant?_chars (written_moment h), instant?_moment h]
  rfl

end Instant

/-! ### Texts of dates are texts of no number -/

theorem trim_of_forall {s : String} (h : ∀ c ∈ s.toList, isBlank c = false) : Text.trim s = s := by
  have hstart {cs : List Char} (hcs : ∀ c ∈ cs, isBlank c = false) : trimStart cs = cs :=
    Text.trimStart_of_head fun c hc => hcs c (List.mem_of_mem_head? hc)
  have hend : (trimStart s.toList.reverse).reverse = s.toList := by
    rw [hstart fun c hc => h c (List.mem_reverse.mp hc), List.reverse_reverse]
  rw [Text.trim, Text.trimChars, hstart h]
  exact (congrArg String.ofList hend).trans String.ofList_toList

theorem isBlank_of_mem_padded {width n : Nat} {c : Char} (h : c ∈ (Date.padded width n).toList) : isBlank c = false :=
  isBlank_of_isDigit (Date.isDigit_of_mem_padded h)

theorem Date.isBlank_of_mem_chars {d : Date} {c : Char} (h : c ∈ d.chars) : isBlank c = false := by
  simp only [chars, List.mem_append, List.mem_cons] at h
  rcases h with h | rfl | h | rfl | h <;> first | exact isBlank_of_mem_padded h | rfl

theorem Calendar.Moment.isBlank_of_mem_chars {m : Moment} {c : Char} (h : c ∈ m.chars) : isBlank c = false := by
  simp only [chars, List.mem_append, List.mem_cons, List.not_mem_nil, or_false] at h
  rcases h with h | rfl | h | rfl | h | rfl | h | rfl | h | rfl
  · exact Date.isBlank_of_mem_chars h
  all_goals first | exact isBlank_of_mem_padded h | rfl

/-- A year is followed by a hyphen, which neither belongs to a number nor is blank. -/
theorem Date.wholeNumber?_chars {d : Date} (h : 0 ≤ d.year ∧ d.year ≤ 9999) (rest : List Char) :
    Binary64.wholeNumber? (d.chars ++ rest) = none := by
  have hyear : d.year.natAbs < 10 ^ 4 := by omega
  obtain ⟨c, tail, hcons, hc⟩ := Calendar.exists_padded_cons (show 0 < 4 by decide) hyear
  have hsign : ¬(c = '+' ∨ c = '-') := by
    rintro (rfl | rfl) <;> exact absurd hc (by decide)
  have hdigits : ∀ c ∈ (padded 4 d.year.natAbs).toList, Text.isDigit c = true :=
    fun _ hc => Text.isDigit_of_ascii (isDigit_of_mem_padded hc)
  obtain ⟨more, hchars⟩ : ∃ more, d.chars ++ rest = (padded 4 d.year.natAbs).toList ++ '-' :: more :=
    ⟨_, by rw [chars, List.append_assoc, List.cons_append]⟩
  have hspan : ((padded 4 d.year.natAbs).toList ++ '-' :: more).span Text.isDigit =
      ((padded 4 d.year.natAbs).toList, '-' :: more) := by
    refine Binary64.span_digits hdigits ?_
    rintro c ⟨⟩
    decide
  have hmark : Binary64.splitMark ((padded 4 d.year.natAbs).toList ++ '-' :: more) =
      ([], (padded 4 d.year.natAbs).toList ++ '-' :: more) := by
    rw [hcons]
    exact if_neg hsign
  have hmantissa : Binary64.splitMantissa? ((padded 4 d.year.natAbs).toList ++ '-' :: more) =
      some ((padded 4 d.year.natAbs).toList, '-' :: more) := by
    rw [Binary64.splitMantissa?, hspan, hcons]
    rfl
  rw [Binary64.wholeNumber?, hchars, Calendar.trimStart_padded (by decide) hyear, hmark]
  simp only [hmantissa, Option.bind_eq_bind, Option.bind_some, List.all_cons, show isBlank '-' = false by decide]
  rfl

end FormRules
