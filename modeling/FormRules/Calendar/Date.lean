/-!
# Dates of the Gregorian calendar

The calendar is extended without end in both directions. Days are counted from 1970-01-01. For counting, a
year is taken to begin in March, so that the leap day is its last one, and years come in eras of four hundred.

* `Date.toDays` counts the days to a date, `Date.ofDays` finds the date of a day;
* `Date.isValid` holds when the month has the day;
* `Date.isSupported` bounds the years that dates of a form may have;
* `Date.text` writes four digits of the year, with a sign for years that have more or are negative.
-/

namespace FormRules

structure Date where
  year : Int
  month : Nat
  day : Nat
  deriving DecidableEq, Repr

def isLeapYear (year : Int) : Bool := year % 4 = 0 && (year % 100 ≠ 0 || year % 400 = 0)

def daysInMonth (year : Int) (month : Nat) : Nat :=
  if month = 2 then if isLeapYear year then 29 else 28
  else if month = 4 ∨ month = 6 ∨ month = 9 ∨ month = 11 then 30
  else 31

namespace Date

def isValid (d : Date) : Bool :=
  1 ≤ d.month && d.month ≤ 12 && 1 ≤ d.day && d.day ≤ daysInMonth d.year d.month

def minYear : Int := -262143
def maxYear : Int := 262142

def isSupported (d : Date) : Bool := minYear ≤ d.year && d.year ≤ maxYear

/-- The days of four hundred years. -/
def daysPerEra : Int := 146097

/-- The days from the beginning of an era, 0000-03-01, to 1970-01-01. -/
def daysToEpoch : Int := 719468

/-- The days from the first of March to the first day of a month, counted from March as month 0. -/
def daysBeforeMonth (month : Int) : Int := (153 * month + 2) / 5

/-- The number of days from 1970-01-01 to a date. -/
def toDays (d : Date) : Int :=
  let year := if d.month ≤ 2 then d.year - 1 else d.year
  let month : Int := if d.month ≤ 2 then d.month + 9 else d.month - 3
  let era := year / 400
  let yearOfEra := year % 400
  era * daysPerEra + (yearOfEra * 365 + yearOfEra / 4 - yearOfEra / 100) + daysBeforeMonth month +
    (d.day - 1) - daysToEpoch

/-- The date of the day that lies `days` after 1970-01-01. -/
def ofDays (days : Int) : Date :=
  let shifted := days + daysToEpoch
  let era := shifted / daysPerEra
  let dayOfEra := shifted % daysPerEra
  let century := min 3 (dayOfEra / 36524)
  let dayOfCentury := dayOfEra - century * 36524
  let cycle := dayOfCentury / 1461
  let dayOfCycle := dayOfCentury % 1461
  let yearOfCycle := min 3 (dayOfCycle / 365)
  let dayOfYear := dayOfCycle - yearOfCycle * 365
  let month := (5 * dayOfYear + 2) / 153
  let day := dayOfYear - daysBeforeMonth month + 1
  let year := era * 400 + century * 100 + cycle * 4 + yearOfCycle
  if month < 10 then ⟨year, (month + 3).toNat, day.toNat⟩ else ⟨year + 1, (month - 9).toNat, day.toNat⟩

/-- Decimal digits with zeros in front up to the given width. -/
def padded (width n : Nat) : String :=
  let digits := Nat.toDigits 10 n
  String.ofList (List.replicate (width - digits.length) '0' ++ digits)

def yearText (year : Int) : String :=
  if 0 ≤ year ∧ year ≤ 9999 then padded 4 year.natAbs
  else (if year < 0 then "-" else "+") ++ padded 4 year.natAbs

/-- The text of a date: year, month and day with hyphens between them. -/
def text (d : Date) : String := yearText d.year ++ "-" ++ padded 2 d.month ++ "-" ++ padded 2 d.day

end Date

end FormRules
