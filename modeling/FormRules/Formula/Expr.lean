import FormRules.Formula.Builtin
import FormRules.Value

/-!
# Formulas as trees

An expression is a literal value, a reference to a field, an operation on two expressions, or a call. The name
in a call is upper case and need not be that of a built-in function.
-/

namespace FormRules.Formula

inductive ArithmeticOp where
  | add | subtract | multiply | divide
  deriving DecidableEq, Repr

def ArithmeticOp.ofSymbol? : String → Option ArithmeticOp
  | "+" => some .add
  | "-" => some .subtract
  | "*" => some .multiply
  | "/" => some .divide
  | _ => none

def ArithmeticOp.symbol : ArithmeticOp → String
  | add => "+"
  | subtract => "-"
  | multiply => "*"
  | divide => "/"

inductive ComparisonOp where
  | equal | notEqual | less | lessEqual | greater | greaterEqual
  deriving DecidableEq, Repr

def ComparisonOp.ofSymbol? : String → Option ComparisonOp
  | "=" => some .equal
  | "<>" => some .notEqual
  | "<" => some .less
  | "<=" => some .lessEqual
  | ">" => some .greater
  | ">=" => some .greaterEqual
  | _ => none

def ComparisonOp.symbol : ComparisonOp → String
  | equal => "="
  | notEqual => "<>"
  | less => "<"
  | lessEqual => "<="
  | greater => ">"
  | greaterEqual => ">="

inductive Expr where
  | literal (value : Value)
  | field (name : String)
  | arithmetic (op : ArithmeticOp) (left right : Expr)
  | comparison (op : ComparisonOp) (left right : Expr)
  | call (name : String) (args : List Expr)

namespace Expr

instance : Inhabited Expr := ⟨.literal .null⟩

mutual

/-- The names of the fields that an expression refers to, from left to right. -/
def fields : Expr → List String
  | literal _ => []
  | field name => [name]
  | arithmetic _ left right => left.fields ++ right.fields
  | comparison _ left right => left.fields ++ right.fields
  | call _ args => fieldsOfAll args

/-- The names of the fields that some expressions refer to. -/
def fieldsOfAll : List Expr → List String
  | [] => []
  | arg :: args => arg.fields ++ fieldsOfAll args

end

mutual

/-- Whether an expression has a call that is replaced by its value when the formula is expanded. -/
def hasExpandable : Expr → Bool
  | literal _ => false
  | field _ => false
  | arithmetic _ left right => left.hasExpandable || right.hasExpandable
  | comparison _ left right => left.hasExpandable || right.hasExpandable
  | call name args => isExpandableName name || anyExpandable args

/-- Whether one of some expressions has such a call. -/
def anyExpandable : List Expr → Bool
  | [] => false
  | arg :: args => arg.hasExpandable || anyExpandable args

end

end Expr

end FormRules.Formula
