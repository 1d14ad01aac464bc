import FormRules.Formula.Error

/-!
# Built-in functions

The functions that a formula may call, each with its name, its numbers of arguments and two properties:
whether it decides itself which arguments are evaluated, and whether its calls are replaced by their value
when a formula is expanded. Names are upper case; `ofName?` finds the function of a name.
-/

namespace FormRules.Formula

inductive Builtin where
  | ifThenElse | and | or | not | isBlank | isNotBlank
  | contains | len | upper | lower | trim | concat
  | sum | avg | min | max | count | round | abs
  | now | today | dateDiff
  deriving DecidableEq, Repr

namespace Builtin

def all : List Builtin :=
  [ifThenElse, and, or, not, isBlank, isNotBlank, contains, len, upper, lower, trim, concat, sum, avg, min,
   max, count, round, abs, now, today, dateDiff]

def name : Builtin → String
  | ifThenElse => "IF"
  | and => "AND"
  | or => "OR"
  | not => "NOT"
  | isBlank => "ISBLANK"
  | isNotBlank => "ISNOTBLANK"
  | contains => "CONTAINS"
  | len => "LEN"
  | upper => "UPPER"
  | lower => "LOWER"
  | trim => "TRIM"
  | concat => "CONCAT"
  | sum => "SUM"
  | avg => "AVG"
  | min => "MIN"
  | max => "MAX"
  | count => "COUNT"
  | round => "ROUND"
  | abs => "ABS"
  | now => "NOW"
  | today => "TODAY"
  | dateDiff => "DATEDIFF"

/-- The function with the given name. -/
def ofName? (name : String) : Option Builtin := all.find? (·.name = name)

/-- The least number of arguments. -/
def minArgs : Builtin → Nat
  | sum | avg | min | max | count | now | today => 0
  | ifThenElse | contains | dateDiff => 2
  | _ => 1

/-- The greatest number of arguments, if there is one. -/
def maxArgs? : Builtin → Option Nat
  | and | or | concat | sum | avg | min | max | count => none
  | ifThenElse | dateDiff => some 3
  | contains | round => some 2
  | now | today => some 0
  | _ => some 1

/-- Whether the function decides which of its arguments are evaluated. -/
def isLazy : Builtin → Bool
  | ifThenElse | and | or => true
  | _ => false

/-- Whether calls of the function are replaced by their value when a formula is expanded. -/
def isExpandable : Builtin → Bool
  | sum | avg | min | max | count | round | now | today | dateDiff => true
  | _ => false

/-- Checks a number of arguments. -/
def checkArity (f : Builtin) (actual : Nat) : Outcome Unit :=
  if actual < f.minArgs then .error (.argumentCount f.name (.atLeast f.minArgs) actual)
  else match f.maxArgs? with
    | some most => if most < actual then .error (.argumentCount f.name (.atMost most) actual) else .ok ()
    | none => .ok ()

theorem ofName?_name (f : Builtin) : ofName? f.name = some f := by cases f <;> decide

end Builtin

/-- Whether calls of the function with this name are replaced by their value when a formula is expanded. -/
def isExpandableName (name : String) : Bool := (Builtin.ofName? name).any (·.isExpandable)

end FormRules.Formula
