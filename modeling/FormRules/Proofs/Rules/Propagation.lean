import FormRules.Proofs.Formula.References
import FormRules.Proofs.Rules.Contents

/-!
# Which changes of results are propagated

The graph knows the fields by the names that formulas write, and nothing of titles and alternate names. So a
calculated field whose result changes with the value under a key is affected by the key, unless its formula has
a name that reads through the key (`affected_or_readsThrough`). On given form data this gap is open exactly if
some such name stands for another value than the new one (`affectedFields_complete_iff`). Where two fields have the
same name, the order of the fields decides which of them it reads; the form has them in any order.
-/

namespace FormRules.Registry

open Dependency (Graph Node)
open Formula (Context Referable)

variable {r : Registry}

/-- A field whose result changes is affected, or its formula names the changed field in another way. -/
theorem affected_or_readsThrough (hr : r.Reachable) {ctx : Context} {key id : String} {value : Value}
    {field : CalculationField} (hfield : r.calculation? id = some field) (hid : id ≠ key)
    (hresult : Formula.resultOf ctx field.formula ≠
      Formula.resultOf { ctx with data := ctx.data.insert key value } field.formula) :
    id ∈ r.affectedFields key ∨ ∃ name ∈ Formula.dependencies field.formula,
      FormData.ReadsThrough ctx.data ctx.fields key name ∧ ctx.value name ≠ value := by
  by_cases hkey : key ∈ Formula.dependencies field.formula
  · have hedge := hr.inStep.edge_field_iff.mpr ⟨field, hfield, key, hkey, rfl⟩
    exact .inl (mem_affectedFields.mpr ⟨Option.isSome_of_eq_some hfield, hid, .single hedge⟩)
  · right
    refine Classical.byContradiction fun hnone => ?_
    refine hresult (Formula.resultOf_congr (fun name hname => ?_) (.inl rfl))
    have hne : name ≠ key := fun heq => hkey (heq ▸ hname)
    rw [Context.value, Context.value]
    by_cases hreads : FormData.ReadsThrough ctx.data ctx.fields key name
    · rw [FormData.lookup_insert_of_readsThrough hreads]
      exact Classical.byContradiction fun hvalue => hnone ⟨name, hname, hreads, hvalue⟩
    · rw [FormData.lookup_insert_of_not hne hreads]

/-- A registry with a single field that has the value of a name. -/
def single (id name : String) : Registry :=
  ({} : Registry).registerCalculation id (Formula.reference name) .realtime {}

theorem reachable_single (id name : String) : (single id name).Reachable := .registerCalculation .new _ _ _ _

theorem calculation_single (id name : String) : (single id name).calculation? id =
    some ⟨id, Formula.reference name, Formula.dependencies (Formula.reference name), .realtime, {}⟩ := by
  simp [single, registerCalculation, calculation?]

/-- All edges lead from the name. -/
theorem eq_of_edge_single {id name : String} (h : Referable name) {p d : Node}
    (hedge : (single id name).graph.Edge p d) : p = .field name := by
  rw [single, registerCalculation, Graph.edge_setPrecedents Graph.balanced_empty,
    Formula.dependencies_reference h] at hedge
  split at hedge
  · simpa using hedge
  · exact absurd hedge Graph.not_edge_empty

/-- All changes of results are propagated, in every registry, exactly if no name that reads through the key
stands for another value than the new one. The form goes through its fields in whichever order it has. -/
theorem affectedFields_complete_iff (ctx : Context) (key : String) (value : Value) :
    (∀ r : Registry, r.Reachable → ∀ id field, r.calculation? id = some field → id ≠ key →
      Formula.resultOf ctx field.formula ≠
        Formula.resultOf { ctx with data := ctx.data.insert key value } field.formula →
      id ∈ r.affectedFields key) ↔
    ∀ name, Referable name → FormData.ReadsThrough ctx.data ctx.fields key name → ctx.value name = value := by
  constructor
  · intro h name hname hreads
    refine Classical.byContradiction fun hvalue => ?_
    have hid : key.push 'x' ≠ key := fun heq => by simpa using congrArg String.length heq
    have hresult : Formula.resultOf ctx (Formula.reference name) ≠
        Formula.resultOf { ctx with data := ctx.data.insert key value } (Formula.reference name) := by
      rw [Formula.resultOf_reference hname, Formula.resultOf_reference hname]
      intro heq
      exact hvalue ((Except.ok.inj heq).trans (FormData.lookup_insert_of_readsThrough hreads))
    have haffected := h _ (reachable_single (key.push 'x') name) _ _ (calculation_single _ name) hid hresult
    obtain ⟨-, -, hreach⟩ := mem_affectedFields.mp haffected
    obtain ⟨d, hedge, -⟩ := Relation.TransGen.head'_iff.mp hreach
    exact hreads.1 (Node.field.inj (eq_of_edge_single hname hedge)).symm
  · intro h r hr id field hfield hid hresult
    rcases affected_or_readsThrough hr hfield hid hresult with haffected | ⟨name, hname, hreads, hvalue⟩
    · exact haffected
    · exact absurd (h name (Formula.referable_of_mem_dependencies hname) hreads) hvalue

/-- A form with a field `f1` of the title `Price`. -/
def priced : Context where
  data := .ofList [("f1", Value.number (.ofNat 5))]
  fields := .ofList [("f1", FieldMeta.mk "f1" "Price" "" none false)]
  now := .ofMillis 0

/-- A change of a field does not affect a calculated one that names it by its title. -/
theorem not_affected_by_title :
    let r := ({} : Registry).registerCalculation "Total" "[Price]*2" .realtime {}
    r.Reachable ∧ r.affectedFields "f1" = [] ∧ Formula.resultOf priced "[Price]*2" = .ok (.number (.ofNat 10)) ∧
      Formula.resultOf { priced with data := priced.data.insert "f1" (.number (.ofNat 6)) } "[Price]*2" =
        .ok (.number (.ofNat 12)) := by
  refine ⟨.registerCalculation .new _ _ _ _, ?_, ?_, ?_⟩ <;> decide +kernel

end FormRules.Registry
