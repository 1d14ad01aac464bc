import FormRules.Formula.Function
import FormRules.Number.Decimal96

/-!
# Showing values

A calculated field stores a value and shows a text that its format options make of it:

* a number has its own places or a fixed count of them, may have its thousands grouped, and stands between a
  leading and a trailing text; a minus sign goes in front of a leading text;
* a date is written as year, month and day;
* a value that is not what the format asks for is shown as its plain text.
-/

namespace FormRules

inductive FormatType where
  | number
  | currency
  | percentage
  | date
  | auto
  deriving DecidableEq, Repr

structure FormatOptions where
  formatType : FormatType := .auto
  precision? : Option UInt32 := none
  leading? : Option String := none
  trailing? : Option String := none
  thousands : Bool := false
  deriving DecidableEq

namespace FormatOptions

/-- The count of decimal places; without one a number keeps its own. An amount has two. -/
def places? (options : FormatOptions) : Option Nat :=
  match options.precision?, options.formatType with
  | some places, _ => some places.toNat
  | none, .currency => some 2
  | none, _ => none

/-- The text in front of a number or date. -/
def leading (options : FormatOptions) : String :=
  match options.leading?, options.formatType with
  | some text, _ => text
  | none, .currency => "$"
  | none, _ => ""

/-- The text after a number or date. -/
def trailing (options : FormatOptions) : String :=
  match options.trailing?, options.formatType with
  | some text, _ => text
  | none, .percentage => "%"
  | none, _ => ""

end FormatOptions

namespace Display

/-- Digits with a comma before each digit that is not the first and has a multiple of three digits from it to
the end. -/
def groupDigits : List Char → List Char
  | [] => []
  | c :: rest =>
    if rest.length ≠ 0 ∧ rest.length % 3 = 0 then c :: ',' :: groupDigits rest else c :: groupDigits rest

/-- The text of a number with the thousands of its whole part grouped; a text whose whole part is not digits
is left alone. -/
def groupThousands (text : String) : String :=
  let (sign, unsigned) : List Char × List Char := match text.toList with
    | '-' :: rest => (['-'], rest)
    | cs => ([], cs)
  let whole := unsigned.takeWhile (· ≠ '.')
  if whole.all Char.isDigit then String.ofList (sign ++ groupDigits whole ++ unsigned.dropWhile (· ≠ '.'))
  else text

/-- The digits of a number, with the places that the options ask for. -/
def numberText (x : Binary64) (options : FormatOptions) : String :=
  let text := match options.places?, Decimal96.ofBinary64? x with
    | some places, some d => ((d.rounded places).rescaled places).text
    | _, _ => x.display
  if options.thousands then groupThousands text else text

/-- The date that a value stands for, if it has one. -/
def dateText? (value : Value) : Option String :=
  match Formula.timestamp value with
  | .ok millis =>
    let t := Instant.ofMillis millis
    if t.isSupported then some t.date.text else none
  | .error _ => none

/-- A text between the leading and the trailing text; a minus sign comes first if there is a leading text. -/
def enclose (options : FormatOptions) (body : String) : String :=
  match body.toList with
  | '-' :: rest =>
    if options.leading.isEmpty then body ++ options.trailing
    else "-" ++ options.leading ++ String.ofList rest ++ options.trailing
  | _ => options.leading ++ body ++ options.trailing

/-- The text that shows a value. -/
def render (options : FormatOptions) (value : Value) : String :=
  if value.isNull then ""
  else match options.formatType with
    | .date => ((dateText? value).map (enclose options)).getD value.toText
    | .auto =>
      match value with
      | .number x => enclose options (numberText x options)
      | _ => enclose options value.toText
    | _ => (value.numeric?.map fun x => enclose options (numberText x options)).getD value.toText

end Display

end FormRules
