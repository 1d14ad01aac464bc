import FormRules.Rules.Recalculation
import FormRules.Proofs.Formula.Reading
import FormRules.Proofs.Rules.Contents

/-!
# The cascade after a change

Form data is consistent if every calculated field holds the value of its formula on the data itself. After a
change of another field the affected ones are computed one by one, and each is written before the next one is
computed. What carries the proof is that the fields outside the rest of the list are up to date at any time
(`UpToDate`): the list is such that the dependents of a field come behind it (`DependentsFollow`), so writing
a field makes no field stale that has been computed before.
-/

namespace FormRules.Registry

open Dependency (Graph Node)
open Formula (Context)

/-- The value that a formula gives a field: null if it fails. -/
def formulaValue (ctx : Context) (formula : String) : Value := (Formula.resultOf ctx formula).toOption.getD .null

/-- The value that a field is recomputed to. -/
def freshValue (r : Registry) (ctx : Context) (fieldId : String) : Value :=
  (r.calculation? fieldId).elim .null fun field => formulaValue ctx field.formula

/-- The data after some fields are recomputed and written, one after the other. -/
def rewritten (r : Registry) (ctx : Context) (ids : List String) : FormData :=
  ids.foldl (fun data id => data.insert id (r.freshValue { ctx with data } id)) ctx.data

/-- Every calculated field but the given ones holds the value of its formula. -/
def UpToDate (r : Registry) (ctx : Context) (except : List String) : Prop :=
  ∀ id field, r.calculation? id = some field → id ∉ except → ctx.data[id]? = some (formulaValue ctx field.formula)

/-- Every calculated field holds the value of its formula. -/
def Consistent (r : Registry) (ctx : Context) : Prop :=
  ∀ id field, r.calculation? id = some field → ctx.data[id]? = some (formulaValue ctx field.formula)

/-- Every name in the formula of a calculated field is a key of the data or the name of no field. -/
def ReadsDirectly (r : Registry) (ctx : Context) : Prop :=
  ∀ id field, r.calculation? id = some field → ∀ name ∈ Formula.dependencies field.formula,
    FormData.IsDirect ctx.data ctx.fields name

theorem forall_calculation_iff {r : Registry} {P : String → CalculationField → Prop} :
    (∀ id field, r.calculation? id = some field → P id field) ↔
      ∀ entry ∈ r.calculations.toList, P entry.1 entry.2 := by
  constructor
  · exact fun h entry hentry => h entry.1 entry.2 (Std.ExtTreeMap.mem_toList_iff_getElem?_eq_some.mp hentry)
  · exact fun h id field hfield => h (id, field) (Std.ExtTreeMap.mem_toList_iff_getElem?_eq_some.mpr hfield)

instance (r : Registry) (ctx : Context) : Decidable (r.Consistent ctx) :=
  decidable_of_iff _ forall_calculation_iff.symm

/-- The dependents of each listed field come behind it. -/
def DependentsFollow (g : Graph) : List String → Prop
  | [] => True
  | id :: rest => (∀ d, g.Edge (.field id) (.field d) → d ∈ rest) ∧ DependentsFollow g rest

variable {r : Registry} {ctx : Context}

theorem rawValue_fst (fieldId : String) : (r.rawValue ctx fieldId).1.getD .null = r.freshValue ctx fieldId := by
  unfold rawValue freshValue
  cases r.calculation? fieldId with
  | none => rfl
  | some field =>
    show (r.engine.tryEvaluate ctx field.formula).1.toOption.getD .null = formulaValue ctx field.formula
    rw [Formula.tryEvaluate_fst, formulaValue]

/-- Computing a value changes the engine alone. -/
theorem rawValue_snd (fieldId : String) : ∃ engine, (r.rawValue ctx fieldId).2 = { r with engine } := by
  unfold rawValue
  cases r.calculation? fieldId with
  | none => exact ⟨r.engine, rfl⟩
  | some field => exact ⟨(r.engine.tryEvaluate ctx field.formula).2, rfl⟩

theorem recomputeAll_data (ids : List String) : (r.recomputeAll ctx ids).2.1 = r.rewritten ctx ids := by
  induction ids generalizing r ctx with
  | nil => rfl
  | cons id rest ih =>
    obtain ⟨engine, hr⟩ : ∃ engine, (r.rawValue ctx id).2 = { r with engine } := rawValue_snd id
    have hdata : (r.recomputeAll ctx (id :: rest)).2.1 = ((r.rawValue ctx id).2.recomputeAll
        { ctx with data := ctx.data.insert id ((r.rawValue ctx id).1.getD .null) } rest).2.1 := rfl
    rw [hdata, ih, rawValue_fst, hr]
    rfl

theorem ReadsDirectly.insert (h : r.ReadsDirectly ctx) (key : String) (value : Value) :
    r.ReadsDirectly { ctx with data := ctx.data.insert key value } :=
  fun id field hfield name hname => (h id field hfield name hname).insert key value

/-- Writing a name that a formula does not refer to leaves its value as it is. -/
theorem formulaValue_insert (h : r.ReadsDirectly ctx) {id key : String} {field : CalculationField} (value : Value)
    (hfield : r.calculation? id = some field) (hkey : key ∉ Formula.dependencies field.formula) :
    formulaValue { ctx with data := ctx.data.insert key value } field.formula =
      formulaValue ctx field.formula := by
  have hvalue : ∀ name ∈ Formula.dependencies field.formula,
      Context.value { ctx with data := ctx.data.insert key value } name = ctx.value name := by
    intro name hname
    have hne : key ≠ name := fun heq => hkey (heq ▸ hname)
    have hdirect := h id field hfield name hname
    rw [Context.value, Context.value, FormData.lookup_of_isDirect hdirect,
      FormData.lookup_of_isDirect (hdirect.insert key value), getElem?_insert_of_ne hne]
  rw [formulaValue, formulaValue, Formula.resultOf_congr hvalue (.inl rfl)]

/-- Writing a field with its own value, or one that is not calculated, spoils only those that depend on it. -/
theorem UpToDate.write (hr : r.InStep) (hdirect : r.ReadsDirectly ctx) {ids rest : List String}
    (h : r.UpToDate ctx ids) {key : String} {value : Value}
    (hkey : ∀ field, r.calculation? key = some field → formulaValue ctx field.formula = value)
    (hdependents : ∀ d, r.graph.Edge (.field key) (.field d) → d ∈ rest)
    (hids : ∀ id ∈ ids, id = key ∨ id ∈ rest) :
    r.UpToDate { ctx with data := ctx.data.insert key value } rest := by
  intro id field hfield hid
  have hunread : key ∉ Formula.dependencies field.formula := fun hmem =>
    hid (hdependents id (hr.edge_field_iff.mpr ⟨field, hfield, key, hmem, rfl⟩))
  rw [formulaValue_insert hdirect value hfield hunread]
  by_cases heq : key = id
  · subst heq
    rw [Std.ExtTreeMap.getElem?_insert_self, hkey field hfield]
  · rw [getElem?_insert_of_ne heq]
    refine h id field hfield fun hmem => ?_
    rcases hids id hmem with hown | hrest
    · exact heq hown.symm
    · exact hid hrest

/-- Recomputing fields in an order in which dependents follow brings these up to date, whichever others are not. -/
theorem UpToDate.recomputeBeside (hr : r.InStep) {ids others : List String} (hids : DependentsFollow r.graph ids)
    (hdirect : r.ReadsDirectly ctx) (h : r.UpToDate ctx (ids ++ others)) :
    r.UpToDate { ctx with data := r.rewritten ctx ids } others := by
  induction ids generalizing ctx with
  | nil => exact h
  | cons id rest ih =>
    obtain ⟨hdependents, hrest⟩ := hids
    refine ih hrest (hdirect.insert id _) (h.write hr hdirect ?_ ?_ fun _ => List.mem_cons.mp)
    · intro field hfield
      rw [freshValue, hfield]
      rfl
    · exact fun d hedge => List.mem_append_left others (hdependents d hedge)

/-- Recomputing all fields that are not up to date leaves none. -/
theorem UpToDate.recompute (hr : r.InStep) {ids : List String} (hids : DependentsFollow r.graph ids)
    (hdirect : r.ReadsDirectly ctx) (h : r.UpToDate ctx ids) :
    r.UpToDate { ctx with data := r.rewritten ctx ids } [] := by
  rw [← List.append_nil ids] at h
  exact h.recomputeBeside hr hids hdirect

/-- What depends on a changed field that is not calculated, or on what it leads to, is affected. -/
theorem mem_affectedFields_of_edge (hr : r.InStep) {changed d : String} (hchanged : r.calculation? changed = none)
    {p : Node} (hp : r.graph.Leads (.field changed) p) (hedge : r.graph.Edge p (.field d)) :
    d ∈ r.affectedFields changed := by
  obtain ⟨field, hfield, -⟩ := hr.edge_field_iff.mp hedge
  refine mem_affectedFields.mpr ⟨Option.isSome_of_eq_some hfield, ?_, .tail' hp hedge⟩
  rintro rfl
  rw [hchanged] at hfield
  cases hfield

/-- Without cycles the affected fields are listed in such an order. -/
theorem dependentsFollow_affectedFields (hr : r.InStep) (hcircular : r.circularFields = []) {changed : String}
    (hchanged : r.calculation? changed = none) : DependentsFollow r.graph (r.affectedFields changed) := by
  have hacyclic := hr.acyclic hcircular
  have hclosed : ∀ id d, id ∈ r.affectedFields changed → r.graph.Edge (.field id) (.field d) →
      d ∈ r.affectedFields changed := fun id d hid hedge =>
    mem_affectedFields_of_edge hr hchanged (mem_affectedFields.mp hid).2.2.to_reflTransGen hedge
  have hordered := ordered_affectedFields (r := r) changed
  -- all affected fields are those before a place, the one at the place and those behind it
  have hsuffix : ∀ before rest, before ++ rest = r.affectedFields changed → DependentsFollow r.graph rest := by
    intro before rest
    induction rest generalizing before with
    | nil => exact fun _ => trivial
    | cons id rest ih =>
      intro hsplit
      refine ⟨fun d hedge => ?_, ih (before ++ [id]) (by rw [← hsplit, List.append_assoc]; rfl)⟩
      have hd := hclosed id d (by rw [← hsplit]; simp) hedge
      rw [← hsplit, List.mem_append, List.mem_cons] at hd
      rcases hd with hbefore | rfl | hrest
      · rw [← hsplit, List.pairwise_append] at hordered
        have hleads := hordered.2.2 d hbefore id List.mem_cons_self hedge
        exact absurd (Relation.TransGen.head' hedge hleads) (hacyclic _)
      · exact absurd (Relation.TransGen.single hedge) (hacyclic _)
      · exact hrest
  exact hsuffix [] _ rfl

/-- In a registry without circular fields a change of a field that is not calculated is followed by all that it
affects: consistent data are consistent again after the cascade. -/
theorem consistent_applyChange (hr : r.Reachable) (hcircular : r.circularFields = [])
    (hdirect : r.ReadsDirectly ctx) (hctx : r.Consistent ctx) {changed : String}
    (hchanged : r.calculation? changed = none) (value : Value) :
    r.Consistent { ctx with
      data := (r.applyChange { ctx with data := ctx.data.insert changed value } changed).2.1 } := by
  have hstep := hr.inStep
  have hwritten : r.UpToDate { ctx with data := ctx.data.insert changed value } (r.affectedFields changed) := by
    have hall : r.UpToDate ctx [] := fun id field hfield _ => hctx id field hfield
    exact hall.write hstep hdirect (by simp [hchanged])
      (fun d hedge => mem_affectedFields_of_edge hstep hchanged .refl hedge) (by simp)
  have hfresh := hwritten.recompute hstep (dependentsFollow_affectedFields hstep hcircular hchanged)
    (hdirect.insert changed value)
  rw [applyChange, recomputeAll_data]
  exact fun id field hfield => hfresh id field hfield (List.not_mem_nil)

/-- Two fields depend on `a`, and a sum on both. -/
def diamond : Registry :=
  ((({} : Registry).registerCalculation "twice" "[a]*2" .realtime {})
    |>.registerCalculation "inverse" "1/[a]" .realtime {})
    |>.registerCalculation "sum" "[twice]+[inverse]" .realtime {}

def diamondContext : Context where
  data := .ofList ([("a", 1), ("twice", 2), ("inverse", 1), ("sum", 3)].map fun (k, n) => (k, Value.number (.ofNat n)))
  fields := ∅
  now := .ofMillis 0

/-- With zero for `a` one of the two formulas that read it fails. -/
theorem consistent_applyChange_diamond :
    diamond.Reachable ∧ diamond.circularFields = [] ∧ diamond.ReadsDirectly diamondContext ∧
      diamond.Consistent diamondContext ∧ diamond.calculation? "a" = none ∧
      diamond.Consistent { diamondContext with data := (diamond.applyChange { diamondContext with
        data := diamondContext.data.insert "a" (.number (.ofNat 0)) } "a").2.1 } := by
  have hr : diamond.Reachable :=
    .registerCalculation (.registerCalculation (.registerCalculation .new _ _ _ _) _ _ _ _) _ _ _ _
  have hcircular : diamond.circularFields = [] := by decide +kernel
  have hdirect : diamond.ReadsDirectly diamondContext := by
    have hkeys : ∀ entry ∈ diamond.calculations.toList, ∀ name ∈ Formula.dependencies entry.2.formula,
        name ∈ diamondContext.data := by decide +kernel
    exact forall_calculation_iff.mpr fun entry hentry name hname => .inl (hkeys entry hentry name hname)
  have hctx : diamond.Consistent diamondContext := by decide +kernel
  have ha : diamond.calculation? "a" = none := by decide +kernel
  have hchange := consistent_applyChange hr hcircular hdirect hctx ha (.number (.ofNat 0))
  exact ⟨hr, hcircular, hdirect, hctx, ha, hchange⟩

end FormRules.Registry
