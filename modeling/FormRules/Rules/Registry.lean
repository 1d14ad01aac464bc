import FormRules.Dependency.Order
import FormRules.Formula.Engine
import FormRules.Rules.Basic

/-!
# The registry of calculated fields and rules

A registry holds the calculated fields and the validation rules of a form, with the dependency graph of their
formulas: a calculated field depends on the fields that its formula refers to, and the rules of a field depend
on the field and on all that they refer to.

* `registerCalculation`, `removeCalculation`, `registerRule` and `removeRules` keep the graph in step;
* `affectedFields` and `affectedRules` list what a change of a field makes stale;
* `exported` and `imported` save and restore the contents.
-/

namespace FormRules

open Dependency (Graph Node)

structure Registry where
  engine : Formula.Engine := {}
  calculations : Std.ExtTreeMap String CalculationField compare := ∅
  /-- The rules of each field that has some, in the order in which they are checked. -/
  rules : Std.ExtTreeMap String (List ValidationRule) compare := ∅
  graph : Graph := {}

namespace Registry

/-- Adds a calculated field, or replaces the one with the same id. Cycles are allowed. -/
def registerCalculation (r : Registry) (fieldId formula : String) (mode : UpdateMode)
    (format : FormatOptions) : Registry :=
  let dependencies := Formula.dependencies formula
  { r with
    calculations := r.calculations.insert fieldId ⟨fieldId, formula, dependencies, mode, format⟩
    graph := r.graph.setPrecedents (.field fieldId) dependencies }

def calculation? (r : Registry) (fieldId : String) : Option CalculationField := r.calculations[fieldId]?

/-- Removes a calculated field; what depends on it still does. -/
def removeCalculation (r : Registry) (fieldId : String) : Registry :=
  if r.calculations.contains fieldId then
    { r with
      calculations := r.calculations.erase fieldId
      graph := r.graph.clearPrecedents (.field fieldId) }
  else r

/-- The rules of a field in the order in which they are checked. -/
def rulesOf (r : Registry) (fieldId : String) : List ValidationRule := r.rules[fieldId]?.getD []

/-- The names that the rules of a field depend on: the field itself and those in their formulas. -/
def ruleDependencies (fieldId : String) (rules : List ValidationRule) : List String :=
  fieldId :: rules.flatMap (Formula.dependencies ·.formula)

/-- Adds a rule to those of its field. -/
def registerRule (r : Registry) (rule : ValidationRule) : Registry :=
  let rules := rule.insertInto (r.rulesOf rule.fieldId)
  { r with
    rules := r.rules.insert rule.fieldId rules
    graph := r.graph.setPrecedents (.rules rule.fieldId) (ruleDependencies rule.fieldId rules) }

/-- The rule of a field that was registered last with the given priority. -/
def latestRule? (r : Registry) (fieldId : String) (priority : Int32) : Option ValidationRule :=
  (r.rulesOf fieldId).reverse.find? (·.priority = priority)

/-- Removes all rules of a field. -/
def removeRules (r : Registry) (fieldId : String) : Registry :=
  { r with
    rules := r.rules.erase fieldId
    graph := r.graph.clearPrecedents (.rules fieldId) }

/-- The calculated fields that a change of a field makes stale, in the order in which they are to be
computed. -/
def affectedFields (r : Registry) (changed : String) : List String :=
  let affected := r.graph.affectedBy [.field changed]
  (affected.filter fun node => node.isField && r.calculations.contains node.id).map Node.id

/-- The fields whose rules are to be checked again after a change of a field. -/
def affectedRules (r : Registry) (changed : String) : List String :=
  ((r.graph.affectedBy [.field changed]).filter fun node => !node.isField).map Node.id

/-- The calculated fields that depend on themselves. -/
def circularFields (r : Registry) : List String :=
  (r.graph.circularNodes.filter fun node => node.isField && r.calculations.contains node.id).map Node.id

/-- Removes all fields and rules; compiled formulas are kept. -/
def clear (r : Registry) : Registry := { engine := r.engine }

/-- The fields by id, and the rules by the id of their field. -/
def exported (r : Registry) : Configuration := ⟨r.calculations.values, r.rules.values.flatten⟩

/-- Replaces the contents. What formulas depend on is read from them and not from the configuration. -/
def imported (r : Registry) (config : Configuration) : Registry :=
  let r := config.calculations.foldl
    (fun r field => r.registerCalculation field.fieldId field.formula field.updateMode field.format) r.clear
  config.validations.foldl registerRule r

end Registry

end FormRules
