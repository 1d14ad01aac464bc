import FormRules.Rules.Registry

/-!
# Validation

The rules of a field are checked on the form data with the value to be judged in its place. Each rule that
does not hold makes one violation, and so does a rule that cannot be evaluated; the other rules are checked
all the same.
-/

namespace FormRules.Registry

open Formula (Context)

/-- Checks some rules of a field one after the other. -/
def checkRules (engine : Formula.Engine) (ctx : Context) (fieldId : String) :
    List ValidationRule → List Violation × Formula.Engine
  | [] => ([], engine)
  | rule :: rest =>
    let (result, engine) := engine.tryEvaluate ctx rule.formula
    let (violations, engine) := checkRules engine ctx fieldId rest
    ((rule.violation? fieldId result).toList ++ violations, engine)

/-- The violations of a field's rules by a value. -/
def validateField (r : Registry) (ctx : Context) (fieldId : String) (value : Value) :
    List Violation × Registry :=
  let (violations, engine) :=
    checkRules r.engine { ctx with data := ctx.data.insert fieldId value } fieldId (r.rulesOf fieldId)
  (violations, { r with engine })

/-- Checks the current values of some fields one after the other; fields without violations are left out. -/
def validateEach (r : Registry) (ctx : Context) : List String → List (String × List Violation) × Registry
  | [] => ([], r)
  | fieldId :: rest =>
    let (violations, r) := r.validateField ctx fieldId (ctx.data[fieldId]?.getD .null)
    let (results, r) := r.validateEach ctx rest
    (if violations.isEmpty then results else (fieldId, violations) :: results, r)

/-- The violations by the current values of all fields with rules, by field id. -/
def validateAll (r : Registry) (ctx : Context) : List (String × List Violation) × Registry :=
  r.validateEach ctx r.rules.keys

end FormRules.Registry
