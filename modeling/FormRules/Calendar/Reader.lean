import FormRules.Calendar.Instant
import FormRules.Text.Blank

/-!
# Reading dates and instants

Three notations are read, in this order:

* `readOffsetInstant?`: date and time of fixed width with an offset from universal time;
* `readLocalInstant?`: date and time in universal time, without an offset;
* `readDate?`: a date alone, which stands for its first instant.

The last two take numbers without zeros in front and blanks before a number, and a signed year of any length.
In all of them a second may be 60, which is a leap second, and digits of a fraction beyond the nanosecond are
dropped.

On the command line, `readLooseInstant?` takes date and time with an offset in any spacing.
-/

namespace FormRules.Calendar

open Text (trimStart)

/-- Reads `least` to `most` ASCII digits from the front. -/
def takeNumber? (least most : Nat) (cs : List Char) : Option (Nat × List Char) :=
  let digits := (cs.take most).takeWhile Char.isDigit
  if digits.length < least then none else some (Nat.ofDigitChars 10 digits 0, cs.drop digits.length)

/-- Drops the character `c` from the front. -/
def skip? (c : Char) : List Char → Option (List Char)
  | d :: rest => if d = c then some rest else none
  | [] => none

/-- Reads a fraction of a second, if there is one, and gives the nanoseconds. -/
def takeFraction? : List Char → Option (Nat × List Char)
  | '.' :: rest =>
    let digits := rest.takeWhile Char.isDigit
    if digits.isEmpty then none
    else
      let nanos := digits.take 9
      some (Nat.ofDigitChars 10 nanos 0 * Nat.pow 10 (9 - nanos.length), rest.dropWhile Char.isDigit)
  | cs => some (0, cs)

/-- A date and a time of day as written; `second` may be 60. -/
structure Moment where
  date : Date
  hour : Nat
  minute : Nat
  second : Nat
  nanos : Nat

/-- The instant of a moment in universal time, if its parts are in range. -/
def Moment.instant? (m : Moment) : Option Instant :=
  if m.date.isValid && m.date.isSupported && m.hour ≤ 23 && m.minute ≤ 59 && m.second ≤ 60 then
    let minute := (m.date.toDays * 24 + m.hour) * 60 + m.minute
    if m.second = 60 then some (.ofLeapSecond minute m.nanos)
    else some (.ofNanos ((minute * 60 + m.second) * 1000000000 + m.nanos))
  else none

/-- An offset from universal time in minutes, which ends the text. -/
def readOffset? : List Char → Option Int
  | [c] => if c = 'Z' ∨ c = 'z' then some 0 else none
  | c :: rest => do
    let negative ← if c = '+' then some false else if c = '-' ∨ c = '−' then some true else none
    let (hours, rest) ← takeNumber? 2 2 rest
    let rest ← skip? ':' rest
    let (minutes, rest) ← takeNumber? 2 2 rest
    if rest.isEmpty && hours ≤ 23 && minutes ≤ 59 then
      let total : Int := hours * 60 + minutes
      some (if negative then -total else total)
    else none
  | [] => none

/-- Reads a date and a time of fixed width, separated by `T` or a blank, with an offset. -/
def readOffsetInstant? (cs : List Char) : Option Instant := do
  let (year, cs) ← takeNumber? 4 4 cs
  let cs ← skip? '-' cs
  let (month, cs) ← takeNumber? 2 2 cs
  let cs ← skip? '-' cs
  let (day, cs) ← takeNumber? 2 2 cs
  let cs ← match cs with
    | c :: rest => if c = 'T' ∨ c = 't' ∨ c = ' ' then some rest else none
    | [] => none
  let (hour, cs) ← takeNumber? 2 2 cs
  let cs ← skip? ':' cs
  let (minute, cs) ← takeNumber? 2 2 cs
  let cs ← skip? ':' cs
  let (second, cs) ← takeNumber? 2 2 cs
  let (nanos, cs) ← takeFraction? cs
  let offset ← readOffset? cs
  return (← Moment.instant? ⟨⟨year, month, day⟩, hour, minute, second, nanos⟩).minutesBefore offset

/-- Reads a year: any number of digits after a sign, at most four without one. -/
def takeYear? (cs : List Char) : Option (Int × List Char) :=
  match trimStart cs with
  | '-' :: rest => (takeNumber? 1 rest.length rest).map fun (n, rest) => (-(n : Int), rest)
  | '+' :: rest => (takeNumber? 1 rest.length rest).map fun (n, rest) => ((n : Int), rest)
  | rest => (takeNumber? 1 4 rest).map fun (n, rest) => ((n : Int), rest)

/-- Reads a number of one or two digits after any blanks. -/
def takePart? (cs : List Char) : Option (Nat × List Char) := takeNumber? 1 2 (trimStart cs)

/-- Reads year, month and day with hyphens between them. -/
def takeDate? (cs : List Char) : Option (Date × List Char) := do
  let (year, cs) ← takeYear? cs
  let cs ← skip? '-' cs
  let (month, cs) ← takePart? cs
  let cs ← skip? '-' cs
  let (day, cs) ← takePart? cs
  return (⟨year, month, day⟩, cs)

/-- Reads a date and a time separated by `T`, in universal time. -/
def readLocalInstant? (cs : List Char) : Option Instant := do
  let (date, cs) ← takeDate? cs
  let cs ← skip? 'T' cs
  let (hour, cs) ← takePart? cs
  let cs ← skip? ':' cs
  let (minute, cs) ← takePart? cs
  let cs ← skip? ':' cs
  let (second, cs) ← takePart? cs
  let (nanos, cs) ← takeFraction? cs
  if cs.isEmpty then Moment.instant? ⟨date, hour, minute, second, nanos⟩ else none

/-- Drops `UTC` in any case from the front. -/
def skipZone? : List Char → Option (List Char)
  | u :: t :: c :: rest => if [u, t, c].map Char.toUpper = ['U', 'T', 'C'] then some rest else none
  | _ => none

/-- Reads an offset from universal time in minutes; between hours and minutes any colons and blanks may
stand. -/
def takeLooseOffset? (cs : List Char) : Option (Int × List Char) :=
  (skipZone? cs).map (0, ·) <|> match cs with
    | [] => none
    | c :: rest =>
      if c = 'Z' ∨ c = 'z' then some (0, rest)
      else do
        let negative ← if c = '+' then some false else if c = '-' ∨ c = '−' then some true else none
        let (hours, rest) ← takeNumber? 2 2 rest
        let (minutes, rest) ← takeNumber? 2 2 (rest.dropWhile fun c => c = ':' || Text.isBlank c)
        if hours ≤ 23 && minutes ≤ 59 then
          let total : Int := hours * 60 + minutes
          some (if negative then -total else total, rest)
        else none

/-- Reads a date and a time with an offset, with blanks between their parts. -/
def readLooseInstant? (cs : List Char) : Option Instant := do
  let (year, cs) ← takeYear? cs
  let cs ← skip? '-' (trimStart cs)
  let (month, cs) ← takePart? cs
  let cs ← skip? '-' (trimStart cs)
  let (day, cs) ← takePart? cs
  let cs ← skip? 'T' cs <|> skip? 't' cs <|> skip? ' ' cs
  let (hour, cs) ← takePart? cs
  let cs ← skip? ':' (trimStart cs)
  let (minute, cs) ← takePart? cs
  let cs ← skip? ':' (trimStart cs)
  let (second, cs) ← takePart? cs
  let (nanos, cs) ← takeFraction? cs
  let (offset, cs) ← takeLooseOffset? (trimStart cs)
  if (trimStart cs).isEmpty then
    let t := (← Moment.instant? ⟨⟨year, month, day⟩, hour, minute, second, nanos⟩).minutesBefore offset
    if t.isSupported then some t else none
  else none

/-- Reads a date alone. -/
def readDate? (cs : List Char) : Option Instant := do
  let (date, cs) ← takeDate? cs
  if cs.isEmpty then Moment.instant? ⟨date, 0, 0, 0, 0⟩ else none

/-- Reads an instant in the first notation that fits. -/
def readInstant? (cs : List Char) : Option Instant :=
  readOffsetInstant? cs <|> readLocalInstant? cs <|> readDate? cs

end FormRules.Calendar
