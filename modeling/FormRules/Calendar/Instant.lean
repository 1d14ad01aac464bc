import FormRules.Calendar.Date

/-!
# Instants

An instant is a number of nanoseconds since 1970-01-01T00:00:00 in universal time. Leap seconds are not counted:
one at the end of a minute has the same nanoseconds as the first second of the next minute, and an instant knows in
which of the two it lies. An instant has a date when it lies in the supported years.

A leap second comes before the second with the same nanoseconds (`Instant.order`), and a wait may end in the leap
second where it begins (`Instant.later`). `Instant.text` writes an instant to the millisecond, so that within the
years 0 to 9999 the order of texts is the order of instants without what is beyond the millisecond.
-/

namespace FormRules

structure Instant where
  nanos : Int
  /-- Whether the instant lies in a leap second, which is second 60 of its minute. -/
  leap : Bool := false
  second_of_leap : leap = true → nanos / 1000000000 % 60 = 0 := by simp
  deriving DecidableEq, Repr

namespace Instant

/-- The instant outside of leap seconds that many nanoseconds after 1970-01-01T00:00:00. -/
def ofNanos (nanos : Int) : Instant := { nanos }

def ofMillis (millis : Int) : Instant := ofNanos (millis * 1000000)

instance : Inhabited Instant := ⟨ofMillis 0⟩

/-- The instant in the leap second at the end of the minute `minute`, counted from 1970-01-01T00:00:00. -/
def ofLeapSecond (minute : Int) (nanos : Nat) : Instant where
  nanos := (minute + 1) * 60000000000 + (nanos % 1000000000 : Nat)
  leap := true
  second_of_leap := by omega

/-- The milliseconds since 1970-01-01T00:00:00, without what is left of the nanoseconds. -/
def millis (t : Instant) : Int := t.nanos / 1000000

/-- The order in time: by seconds, and a leap second comes before the one whose nanoseconds it has. -/
def order (s t : Instant) : Ordering :=
  (compare (s.nanos / 1000000000) (t.nanos / 1000000000)).then
    ((compare t.leap s.leap).then (compare s.nanos t.nanos))

instance : LE Instant := ⟨fun s t => (s.order t).isLE = true⟩

instance (s t : Instant) : Decidable (s ≤ t) := inferInstanceAs (Decidable ((s.order t).isLE = true))

/-- The instant whole minutes before. -/
def minutesBefore (t : Instant) (minutes : Int) : Instant where
  nanos := t.nanos - minutes * 60000000000
  leap := t.leap
  second_of_leap h := by have := t.second_of_leap h; omega

/-- The nanoseconds that a clock which stands still in a leap second has counted. -/
def clockNanos (t : Instant) : Int := if t.leap then t.nanos - 1000000000 else t.nanos

/-- The instant some milliseconds later. A wait that leads out of a leap second is taken to have begun in the second
before it. -/
def later (t : Instant) (wait : Nat) : Instant :=
  if h : t.leap = true ∧ t.nanos % 1000000000 + wait * 1000000 < 1000000000 then
    { nanos := t.nanos + wait * 1000000
      leap := true
      second_of_leap := fun _ => by have := t.second_of_leap h.1; omega }
  else ofNanos (t.clockNanos + wait * 1000000)

def millisPerDay : Int := 86400000

def clockMillis (t : Instant) : Int := t.clockNanos / 1000000

def dayNumber (t : Instant) : Int := t.clockMillis / millisPerDay

def date (t : Instant) : Date := Date.ofDays t.dayNumber

def ofDate (d : Date) : Instant := ofMillis (d.toDays * millisPerDay)

def isSupported (t : Instant) : Bool := t.date.isSupported

/-- The time of day of an instant, to the millisecond. -/
def timeText (t : Instant) : String :=
  let millis := (t.clockMillis % millisPerDay).natAbs
  Date.padded 2 (millis / 3600000) ++ ":" ++ Date.padded 2 (millis / 60000 % 60) ++ ":" ++
    Date.padded 2 (millis / 1000 % 60 + t.leap.toNat) ++ "." ++ Date.padded 3 (millis % 1000)

/-- The text of an instant in universal time, such as `2024-05-01T09:30:00.000Z`. -/
def text (t : Instant) : String := t.date.text ++ "T" ++ t.timeText ++ "Z"

end Instant

end FormRules
