import FormRules.Number.Arithmetic
import FormRules.Number.Notation
import FormRules.Number.Pattern

/-!
# Values of fields

A field holds nothing, a truth value, a number or a text. Formulas read every value as each of them:

* `toBool`: nothing, zero, `nan` and the empty text are false;
* `toNumber`: a text counts as the number it starts with, or zero;
* `toText`: truth values are `TRUE` and `FALSE`, nothing is the empty text;
* `numeric?`: the number that takes part in comparisons, of numbers and of texts that are a number.
-/

namespace FormRules

inductive Value where
  | null
  | boolean (b : Bool)
  | number (x : Binary64)
  | text (s : String)
  deriving DecidableEq

instance : Inhabited Value := ⟨.null⟩

namespace Value

def isNull (v : Value) : Bool := v = null

/-- Nothing, or a text of blanks alone. -/
def isBlank : Value → Bool
  | null => true
  | text s => Text.isBlankText s
  | _ => false

def toBool : Value → Bool
  | null => false
  | boolean b => b
  | number x => !x.isZero && !x.isNaN
  | text s => !s.isEmpty

def toNumber : Value → Binary64
  | null => .zero false
  | boolean b => .ofNat b.toNat
  | number x => x
  | text s => (Binary64.leadingNumber? s.toList).getD (.zero false)

def boolText (b : Bool) : String := if b then "TRUE" else "FALSE"

def toText : Value → String
  | null => ""
  | boolean b => boolText b
  | number x => x.display
  | text s => s

/-- The number that the value is in a comparison, if it is one. -/
def numeric? : Value → Option Binary64
  | number x => some x
  | text s => Binary64.wholeNumber? s.toList
  | _ => none

end Value

end FormRules
