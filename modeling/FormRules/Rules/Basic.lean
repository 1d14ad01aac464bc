import FormRules.Display

/-!
# Calculated fields and validation rules

A calculated field takes its value from a formula. A validation rule is a formula that must hold of a field's
value; a rule that does not hold is a violation. Rules of a field are ordered by priority, equal ones by the
time of registration.
-/

namespace FormRules

/-- When a calculated field is to be recomputed. -/
inductive UpdateMode where
  | realtime
  | onBlur
  | onSubmit
  deriving DecidableEq, Repr

inductive Severity where
  | error
  | warning
  | info
  deriving DecidableEq, Repr

structure CalculationField where
  fieldId : String
  formula : String
  /-- The names that the formula refers to. -/
  dependencies : List String := []
  updateMode : UpdateMode := .realtime
  format : FormatOptions := {}
  deriving DecidableEq

structure ValidationRule where
  fieldId : String
  formula : String
  message : String
  severity : Severity := .error
  priority : Int32 := 0
  deriving DecidableEq

structure Violation where
  fieldId : String
  message : String
  severity : Severity
  priority : Int32
  deriving DecidableEq

/-- The value of a calculated field and the text that shows it. -/
structure CalculatedValue where
  fieldId : String
  value : Value
  display : String
  deriving DecidableEq

/-- The contents of a registry as they are saved. -/
structure Configuration where
  calculations : List CalculationField := []
  validations : List ValidationRule := []
  deriving DecidableEq

namespace ValidationRule

/-- Adds a rule behind those whose priority is not greater. -/
def insertInto (rule : ValidationRule) : List ValidationRule → List ValidationRule
  | [] => [rule]
  | other :: rest =>
    if rule.priority < other.priority then rule :: other :: rest else other :: rule.insertInto rest

/-- The priority of the violation by a rule that cannot be evaluated. -/
def failedPriority : Int32 := 999

/-- The violation by a rule of a field, judged by the result of its formula. -/
def violation? (rule : ValidationRule) (fieldId : String) : Formula.Outcome Value → Option Violation
  | .ok value => if value.toBool then none else some ⟨fieldId, rule.message, rule.severity, rule.priority⟩
  | .error e =>
    some ⟨fieldId, "Validation rule could not be evaluated: " ++ e.message, .error, failedPriority⟩

end ValidationRule

end FormRules
