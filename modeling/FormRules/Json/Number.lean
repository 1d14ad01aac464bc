import FormRules.Json.Basic
import FormRules.Number.Arithmetic
import FormRules.Number.Decimal

/-!
# Numbers of documents

What the text of a number in a document stands for:

* `int?` is a whole number within bounds, written without fraction and exponent; `-0` is none;
* `floatNumber?` is a floating-point number. Digits are gathered as long as they fit into 64 bits, further ones
  are dropped; what is gathered is then rounded and multiplied or divided by a power of ten. The result need
  not be the nearest number to the text, and there is none if it is too large.
-/

namespace FormRules.Json

open Binary64 (ofNat ofDecimal)

/-- The parts of the text of a number. -/
structure Numeral where
  negative : Bool
  whole : List Char
  fraction? : Option (List Char)
  /-- The sign and the digits of the exponent. -/
  exponent? : Option (Bool × List Char)

/-- Takes the text of a number apart. -/
def Numeral.ofText (text : String) : Numeral :=
  let (negative, rest) := Decimal.splitSign text.toList
  let whole := rest.takeWhile Char.isDigit
  let rest := rest.dropWhile Char.isDigit
  let (fraction?, rest) : Option (List Char) × List Char := match rest with
    | '.' :: rest => (some (rest.takeWhile Char.isDigit), rest.dropWhile Char.isDigit)
    | _ => (none, rest)
  ⟨negative, whole, fraction?, if rest.isEmpty then none else some (Decimal.splitSign (rest.drop 1))⟩

/-- The whole number that a text stands for, if it lies between the bounds. -/
def wholeNumber? (low high : Int) (text : String) : Option Int :=
  let n := Numeral.ofText text
  let value := Binary64.signed n.negative (Nat.ofDigitChars 10 n.whole 0)
  let isWhole := n.fraction?.isNone && n.exponent?.isNone && !(n.negative && value = 0)
  if isWhole && low ≤ value && value ≤ high then some value else none

/-- The whole number that a document is, if it lies between the bounds. -/
def int? (low high : Int) : Json → Option Int
  | number text => wholeNumber? low high text
  | _ => none

/-- Appends digits to a significand until one does not fit into 64 bits, and counts the digits that are
left. -/
def gather (significand : Nat) : List Char → Nat × Nat
  | [] => (significand, 0)
  | c :: rest =>
    let next := 10 * significand + (c.toNat - '0'.toNat)
    if next < UInt64.size then gather next rest else (significand, rest.length + 1)

/-- The positive power of ten, rounded. -/
def powerOfTen (exponent : Nat) : Binary64 := ofDecimal false ⟨1, exponent⟩

/-- Divides by a power of ten, in steps that have a power as their divisor. -/
def divideByPower (x : Binary64) (exponent : Nat) : Binary64 :=
  if exponent ≤ 308 then x / powerOfTen exponent
  else if x.isZero then x
  else divideByPower (x / powerOfTen 308) (exponent - 308)
termination_by exponent

/-- A significand times a power of ten; there is no result that is infinite. -/
def scale? (significand : Nat) (exponent : Int) : Option Binary64 :=
  let x := ofNat significand
  if exponent < 0 then some (divideByPower x exponent.natAbs)
  else if 308 < exponent then if x.isZero then some x else none
  else
    let product := x * powerOfTen exponent.toNat
    if product.isFinite then some product else none

/-- The floating-point number that a text stands for. -/
def floatNumber? (text : String) : Option Binary64 :=
  let n := Numeral.ofText text
  let (significand, dropped) := gather 0 n.whole
  let fraction := n.fraction?.getD []
  let (significand, unused) := gather significand fraction
  let places : Int := dropped - (fraction.length - unused : Nat)
  let power : Int := match n.exponent? with
    | some (negative, digits) => Binary64.signed negative (Nat.ofDigitChars 10 digits 0)
    | none => 0
  (scale? significand (places + power)).map fun x => if n.negative then -x else x

end FormRules.Json
