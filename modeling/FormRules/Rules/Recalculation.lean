import FormRules.Rules.Registry

/-!
# Recalculation

A change of a field is followed by the calculated fields that it affects. They are computed in the order of
their dependencies, and each value is stored before the next one is computed. A field whose formula fails is
stored as null.
-/

namespace FormRules.Registry

open Formula (Context)

/-- The value of a calculated field; there is none if the field is unknown or its formula fails. -/
def rawValue (r : Registry) (ctx : Context) (fieldId : String) : Option Value × Registry :=
  match r.calculation? fieldId with
  | none => (none, r)
  | some field =>
    let (result, engine) := r.engine.tryEvaluate ctx field.formula
    (result.toOption, { r with engine })

/-- The text that shows a value of a calculated field. -/
def textOf (r : Registry) (fieldId : String) (value : Value) : String :=
  match r.calculation? fieldId with
  | some field => Display.render field.format value
  | none => ""

/-- The text that shows a calculated field, empty if it has no value. -/
def displayed (r : Registry) (ctx : Context) (fieldId : String) : String × Registry :=
  let (value, r) := r.rawValue ctx fieldId
  ((value.map (r.textOf fieldId)).getD "", r)

/-- Computes some fields one after the other and stores their values. -/
def recomputeAll (r : Registry) (ctx : Context) : List String → List CalculatedValue × FormData × Registry
  | [] => ([], ctx.data, r)
  | fieldId :: rest =>
    let (result, r) := r.rawValue ctx fieldId
    let value := result.getD .null
    let (results, data, r) := r.recomputeAll { ctx with data := ctx.data.insert fieldId value } rest
    (⟨fieldId, value, r.textOf fieldId value⟩ :: results, data, r)

/-- Computes the fields that a change of a field affects. -/
def applyChange (r : Registry) (ctx : Context) (changed : String) :
    List CalculatedValue × FormData × Registry :=
  r.recomputeAll ctx (r.affectedFields changed)

end FormRules.Registry
