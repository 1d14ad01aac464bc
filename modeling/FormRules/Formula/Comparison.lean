import FormRules.Formula.Expr
import FormRules.Text.Case

/-!
# Comparing values

Two values that are both numbers, or texts which are numbers, compare as numbers. Else, if one is a truth
value, both compare as texts in upper case; else they compare as texts. Texts are ordered by code point. Only
`nan` has no order.
-/

namespace FormRules.Formula

/-- The order of two values, if there is one. -/
def compareValues (left right : Value) : Option Ordering :=
  match left.numeric?, right.numeric? with
  | some l, some r => l.compare? r
  | _, _ =>
    match left, right with
    | .boolean _, _ | _, .boolean _ => some (compare (Text.upper left.toText) (Text.upper right.toText))
    | _, _ => some (compare left.toText right.toText)

namespace ComparisonOp

/-- Whether an operator holds of operands with the given order. -/
def holdsOf (op : ComparisonOp) (order : Option Ordering) : Bool :=
  match op with
  | equal => order = some .eq
  | notEqual => order ≠ some .eq
  | less => order = some .lt
  | lessEqual => order = some .lt ∨ order = some .eq
  | greater => order = some .gt
  | greaterEqual => order = some .gt ∨ order = some .eq

def holds (op : ComparisonOp) (left right : Value) : Bool := op.holdsOf (compareValues left right)

end ComparisonOp

end FormRules.Formula
