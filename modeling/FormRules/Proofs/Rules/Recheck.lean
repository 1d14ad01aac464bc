import FormRules.Proofs.Rules.Independence
import FormRules.Proofs.Rules.Judgement

/-!
# Which fields are to be checked again

The rules of a field are among those to be checked again after a change if the change reaches the field or a name
in one of their formulas, through any chain of calculated fields (`mem_affectedRules`). So of the others nothing
that they read is touched (`getElem?_change_of_not_affected`), and where all names are direct their violations by
the current value of the field are the same before and after the change (`validateField_change`).
-/

namespace FormRules.Registry

open Dependency (Graph Node)
open Formula (Context)

variable {r : Registry} {ctx : Context} {key fieldId : String} {value : Value}

/-- The fields with a rule that depends on a changed field, directly or not. -/
theorem mem_affectedRules {changed : String} :
    fieldId ∈ r.affectedRules changed ↔ r.graph.Reaches (.field changed) (.rules fieldId) := by
  simp only [affectedRules, List.mem_map, List.mem_filter, Graph.mem_affectedBy, List.mem_singleton, exists_eq_left]
  constructor
  · rintro ⟨node, ⟨⟨-, hreach⟩, hrules⟩, rfl⟩
    cases node with
    | field id => cases hrules
    | rules id => exact hreach
  · intro hreach
    exact ⟨.rules fieldId, ⟨⟨fun heq => (by cases heq), hreach⟩, rfl⟩, rfl⟩

/-- A change touches no name that rules depend on which need not be checked again. -/
theorem getElem?_change_of_not_affected (h : fieldId ∉ r.affectedRules key) {name : String}
    (hedge : r.graph.Edge (.field name) (.rules fieldId)) :
    (r.change ctx key value).2.data[name]? = ctx.data[name]? := by
  have hne : key ≠ name := by
    rintro rfl
    exact h (mem_affectedRules.mpr (.single hedge))
  have hunaffected : name ∉ r.affectedFields key := fun hmem =>
    h (mem_affectedRules.mpr (.tail (mem_affectedFields.mp hmem).2.2 hedge))
  rw [getElem?_change hunaffected, getElem?_insert_of_ne hne]

/-- A direct name stands for the value to be judged, if it is the id of the field, or else for what is stored
under it. -/
theorem value_insert_of_isDirect {name : String} (h : ctx.data.IsDirect ctx.fields name) :
    Context.value { ctx with data := ctx.data.insert fieldId value } name =
      if name = fieldId then value else ctx.data[name]?.getD .null := by
  rw [Context.value, FormData.lookup_of_isDirect (h.insert fieldId value)]
  split
  · next heq => rw [heq, Std.ExtTreeMap.getElem?_insert_self, Option.getD_some]
  · next hne => rw [getElem?_insert_of_ne (Ne.symm hne)]

/-- A change leaves the violations of rules that need not be checked again as they are, for values of the field that
are the same wherever the rules read it. -/
theorem violations_change (hr : r.Reachable)
    (hdirect : ∀ rule ∈ r.rulesOf fieldId, ∀ name ∈ Formula.dependencies rule.formula,
      ctx.data.IsDirect ctx.fields name)
    (h : fieldId ∉ r.affectedRules key) (value : Value) {before after : Value}
    (hvalue : (∃ rule ∈ r.rulesOf fieldId, fieldId ∈ Formula.dependencies rule.formula) → after = before) :
    let (r', ctx') := r.change ctx key value
    (r'.validateField ctx' fieldId after).1 = (r.validateField ctx fieldId before).1 := by
  obtain ⟨engine, hengine⟩ := change_fst r ctx key value
  show ((r.change ctx key value).1.validateField (r.change ctx key value).2 fieldId after).1 = _
  rw [hengine, validateField_fst, validateField_fst]
  have hrest : (r.change ctx key value).2.now = ctx.now := by rw [change_snd]
  refine violationsOn_congr (r := r) Formula.unnoticed_id hrest fun rule hrule name hname => ?_
  have hname' := hdirect rule hrule name hname
  have hedge : r.graph.Edge (.field name) (.rules fieldId) :=
    (edge_rules_iff hr).mpr ⟨List.ne_nil_of_mem hrule, .inr ⟨rule, hrule, name, hname, rfl⟩⟩
  rw [value_insert_of_isDirect hname', value_insert_of_isDirect (isDirect_change hname'),
    getElem?_change_of_not_affected h hedge]
  split
  · next heq => rw [hvalue ⟨rule, hrule, heq ▸ hname⟩]
  · rfl

/-- The list of rules to be checked again is complete: where all names in the rules of a field are direct and a change
does not list the field, its current value violates the same rules before and after the change, whichever fields
are recomputed. The current value is the one stored under the id of the field, or else the one that the id
stands for. -/
theorem validateField_change (hr : r.Reachable)
    (hdirect : ∀ rule ∈ r.rulesOf fieldId, ∀ name ∈ Formula.dependencies rule.formula,
      ctx.data.IsDirect ctx.fields name)
    (h : fieldId ∉ r.affectedRules key) (value : Value) :
    let (r', ctx') := r.change ctx key value
    (r'.validateField ctx' fieldId (ctx'.data[fieldId]?.getD .null)).1 =
        (r.validateField ctx fieldId (ctx.data[fieldId]?.getD .null)).1 ∧
      (r'.validateField ctx' fieldId (ctx'.value fieldId)).1 =
        (r.validateField ctx fieldId (ctx.value fieldId)).1 := by
  have hstored : (∃ rule ∈ r.rulesOf fieldId, fieldId ∈ Formula.dependencies rule.formula) →
      (r.change ctx key value).2.data[fieldId]?.getD .null = ctx.data[fieldId]?.getD .null := by
    rintro ⟨rule, hrule, -⟩
    have hedge := (edge_rules_iff hr).mpr ⟨List.ne_nil_of_mem hrule, .inl rfl⟩
    rw [getElem?_change_of_not_affected h hedge]
  refine ⟨violations_change hr hdirect h value hstored, violations_change hr hdirect h value ?_⟩
  -- the id stands for the stored value wherever a rule reads it
  rintro ⟨rule, hrule, hread⟩
  have hself := hdirect rule hrule fieldId hread
  have hvalue := hstored ⟨rule, hrule, hread⟩
  rw [← FormData.lookup_of_isDirect hself, ← FormData.lookup_of_isDirect (isDirect_change hself)] at hvalue
  exact hvalue

/-- A total and its tax with a rule on each, and a discount that must stay below a limit. -/
def invoice : Registry :=
  ({} : Registry)
    |>.registerCalculation "Total" "[Price]*[Qty]" .realtime {}
    |>.registerCalculation "Tax" "[Total]/10" .realtime {}
    |>.registerRule ⟨"Tax", "[Tax]<=[Limit]", "Too much", .error, 0⟩
    |>.registerRule ⟨"Discount", "[Discount]<[Limit]", "Too generous", .warning, 1⟩
    |>.registerRule ⟨"Discount", "10/[Limit]>1", "No limit", .error, 2⟩

/-- The discount is too high, and no calculated field is up to date. -/
def invoiceContext : Context where
  data := .ofList ([("Price", 20), ("Qty", 5), ("Limit", 6), ("Discount", 8), ("Tax", 1)].map fun (k, n) =>
    (k, Value.number (.ofNat n)))
  fields := .ofList [("Discount", FieldMeta.mk "Discount" "Reduction" "" none false)]
  now := .ofMillis 0

/-- A change of the price reaches the rule on the tax through the total, and not those on the discount. -/
theorem validateField_change_invoice :
    let after := invoice.change invoiceContext "Price" (.number (.ofNat 50))
    invoice.Reachable ∧ "Discount" ∉ invoice.affectedRules "Price" ∧ "Tax" ∈ invoice.affectedRules "Price" ∧
      (after.1.validateField after.2 "Discount" (after.2.data["Discount"]?.getD .null)).1 =
        [⟨"Discount", "Too generous", .warning, 1⟩] ∧
      (invoice.validateField invoiceContext "Tax" (invoiceContext.value "Tax")).1 = [] ∧
      (after.1.validateField after.2 "Tax" (after.2.value "Tax")).1 = [⟨"Tax", "Too much", .error, 0⟩] := by
  intro after
  have hr : invoice.Reachable := by
    unfold invoice
    exact Reachable.new.registerCalculation _ _ _ _
      |>.registerCalculation _ _ _ _
      |>.registerRule _
      |>.registerRule _
      |>.registerRule _
  have hdirect : ∀ rule ∈ invoice.rulesOf "Discount", ∀ name ∈ Formula.dependencies rule.formula,
      name ∈ invoiceContext.data := by decide +kernel
  have hunlisted : "Discount" ∉ invoice.affectedRules "Price" := by decide +kernel
  have hlisted : "Tax" ∈ invoice.affectedRules "Price" := by decide +kernel
  have hsame := (validateField_change hr (fun rule hrule name hname => .inl (hdirect rule hrule name hname)) hunlisted
    (.number (.ofNat 50))).1
  refine ⟨hr, hunlisted, hlisted, hsame.trans ?_, ?_, ?_⟩ <;> decide +kernel

end FormRules.Registry
