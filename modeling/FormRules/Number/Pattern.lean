import FormRules.Number.Decimal
import FormRules.Text.Blank
import FormRules.Text.Digit

/-!
# Numbers in text

Two patterns find a number in what a user typed; both allow blanks in front and a sign, and take digits of any
script:

* `leadingNumber?` takes the longest number that the text starts with, an exponent included;
* `wholeNumber?` takes a text that is a number without exponent and nothing else, blanks at the end apart.

A number with a digit that is not ASCII is matched but has no value.
-/

namespace FormRules.Binary64

open Text (isBlank isDigit trimStart trimEnd)

/-- Splits digits with at most one point, at least one digit among them, from the front of a text. -/
def splitMantissa? (cs : List Char) : Option (List Char × List Char) :=
  match cs.span isDigit with
  | ([], '.' :: rest) =>
    match rest.span isDigit with
    | ([], _) => none
    | (fraction, rest) => some ('.' :: fraction, rest)
  | ([], _) => none
  | (whole, '.' :: rest) =>
    let (fraction, rest) := rest.span isDigit
    some (whole ++ '.' :: fraction, rest)
  | (whole, rest) => some (whole, rest)

/-- The sign of a text as written, and what follows it. -/
def splitMark (cs : List Char) : List Char × List Char :=
  match cs with
  | s :: rest => if s = '+' ∨ s = '-' then ([s], rest) else ([], cs)
  | [] => ([], [])

/-- The exponent that a text starts with, empty if there is none. -/
def exponentOf : List Char → List Char
  | [] => []
  | e :: rest =>
    let (mark, rest) := splitMark rest
    let digits := rest.takeWhile isDigit
    if (e = 'e' ∨ e = 'E') ∧ digits ≠ [] then e :: (mark ++ digits) else []

/-- The number that a text starts with. -/
def leadingNumber? (cs : List Char) : Option Binary64 := do
  let (mark, rest) := splitMark (trimStart cs)
  let (mantissa, rest) ← splitMantissa? rest
  read? (mark ++ mantissa ++ exponentOf rest)

/-- The number that a text is. -/
def wholeNumber? (cs : List Char) : Option Binary64 := do
  let (mark, rest) := splitMark (trimStart cs)
  let (mantissa, rest) ← splitMantissa? rest
  if rest.all isBlank then read? (mark ++ mantissa) else none

end FormRules.Binary64
