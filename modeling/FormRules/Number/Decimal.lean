import FormRules.Number.Binary64

/-!
# Decimal numbers and their texts

A `Decimal` is `digits * 10 ^ exponent`. `Binary64.ofDecimal` is the binary number nearest to it, a tie going
to the even rank. `read?` reads the decimal notation of a number:

* an optional sign, digits with at most one point among them or at an end, and an optional exponent;
* or, in any case of letters, `inf`, `infinity` or `nan` after an optional sign.

The digits are ASCII digits, at least one of them before the exponent, and nothing may stand around the
number.
-/

namespace FormRules

structure Decimal where
  digits : Nat
  exponent : Int
  deriving DecidableEq, Repr

namespace Binary64

/-- The number nearest to a decimal one, with the given sign. Beyond four hundred places the result is certain
and the power of ten is not computed. -/
def ofDecimal (negative : Bool) (d : Decimal) : Binary64 :=
  let places := (Nat.toDigits 10 d.digits).length + d.exponent
  if d.digits = 0 ∨ places < -400 then zero negative
  else if 400 < places then infinite negative
  else if d.exponent < 0 then ofUnits negative (d.digits * unitsPerOne) (Nat.pow 10 d.exponent.natAbs)
  else ofUnits negative (d.digits * Nat.pow 10 d.exponent.natAbs * unitsPerOne) 1

end Binary64

namespace Decimal

/-- The sign in front of a number and what follows it; `true` is a minus. -/
def splitSign : List Char → Bool × List Char
  | '-' :: rest => (true, rest)
  | '+' :: rest => (false, rest)
  | cs => (false, cs)

/-- The value of a text that is all ASCII digits and not empty. -/
def readDigits? (cs : List Char) : Option Nat :=
  if !cs.isEmpty && cs.all Char.isDigit then some (Nat.ofDigitChars 10 cs 0) else none

/-- The value of the exponent that a number ends with, zero for none. -/
def readExponent? : List Char → Option Int
  | [] => some 0
  | c :: rest =>
    if c = 'e' ∨ c = 'E' then
      let (negative, digits) := splitSign rest
      (readDigits? digits).map fun n => Binary64.signed negative n
    else none

/-- Digits with at most one point and an optional exponent, without a sign. -/
def readUnsigned? (cs : List Char) : Option Decimal := do
  let whole := cs.takeWhile Char.isDigit
  let afterWhole := cs.dropWhile Char.isDigit
  let (fraction, rest) := match afterWhole with
    | '.' :: rest => (rest.takeWhile Char.isDigit, rest.dropWhile Char.isDigit)
    | rest => ([], rest)
  let digits ← readDigits? (whole ++ fraction)
  let exponent ← readExponent? rest
  return ⟨digits, exponent - fraction.length⟩

end Decimal

/-- Reads the decimal notation of a number. -/
def Binary64.read? (cs : List Char) : Option Binary64 :=
  let (negative, rest) := Decimal.splitSign cs
  let word := String.ofList (rest.map Char.toLower)
  if word = "inf" ∨ word = "infinity" then some (infinite negative)
  else if word = "nan" then some nan
  else (Decimal.readUnsigned? rest).map (ofDecimal negative)

end FormRules
