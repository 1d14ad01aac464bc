import FormRules.Proofs.StableSort
import FormRules.Proofs.Rules.Contents

/-!
# Saving and restoring a registry

What a registry holds is tidy (`Registry.Tidy`): each calculated field is stored under its own id with the
dependencies of its formula, and each list of rules is that of a field, not empty and ordered by priority. Tidy
contents come back from their configuration (`calculations_imported`, `rules_imported`): a calculated field is
registered as it was, and rules that are registered in the order in which they are checked stay in this order.

As the graph of a registry is determined by its contents (`InStep.graph_eq`), a restored registry answers all
questions on dependencies as the saved one does, whatever the history of either (`imported_exported`).
-/

namespace FormRules

namespace ValidationRule

variable {rule : ValidationRule} {rules : List ValidationRule}

/-- A rule is put in front of the first one whose priority is greater. -/
theorem insertInto_eq_orderedInsert (rule : ValidationRule) (rules : List ValidationRule) :
    rule.insertInto rules = rules.orderedInsert (fun a b => a.priority < b.priority) rule := by
  induction rules with
  | nil => rfl
  | cons first rest ih => rw [insertInto, List.orderedInsert_cons, ih]

theorem mem_insertInto {other : ValidationRule} : other ∈ rule.insertInto rules ↔ other = rule ∨ other ∈ rules := by
  rw [insertInto_eq_orderedInsert]
  exact List.mem_orderedInsert _

/-- The rules are in the order in which they are checked. -/
def Sorted (rules : List ValidationRule) : Prop := rules.Pairwise fun a b => a.priority ≤ b.priority

/-- Adding rules one after the other sorts them by their priorities, behind equal ones that were there before. -/
theorem stableSort_foldl (h : Sorted rules) (added : List ValidationRule) :
    StableSort (·.priority) (rules ++ added)
      (added.foldl (fun sorted rule => rule.insertInto sorted) rules) := by
  simp only [insertInto_eq_orderedInsert]
  exact (stableSort_self h).append added

theorem sorted_insertInto (h : Sorted rules) : Sorted (rule.insertInto rules) :=
  (stableSort_foldl h [rule]).ordered

/-- Rules that are added in their order keep it. -/
theorem foldl_insertInto {front : List ValidationRule} (h : Sorted (front ++ rules)) :
    rules.foldl (fun sorted rule => rule.insertInto sorted) front = front ++ rules :=
  (stableSort_foldl (List.pairwise_append.mp h).1 rules).unique (stableSort_self h)

end ValidationRule

namespace Registry

open Dependency (Graph Node)

/-- A list of rules as it is kept for a field. -/
structure AreRulesOf (fieldId : String) (rules : List ValidationRule) : Prop where
  ne_nil : rules ≠ []
  own : ∀ rule ∈ rules, rule.fieldId = fieldId
  sorted : ValidationRule.Sorted rules

/-- Every entry is stored under its own id and says what registering it would say. -/
structure Tidy (r : Registry) : Prop where
  calculations : ∀ (id : String) (field : CalculationField), r.calculations[id]? = some field →
    field.fieldId = id ∧ field.dependencies = Formula.dependencies field.formula
  rules : ∀ (id : String) (rules : List ValidationRule), r.rules[id]? = some rules → AreRulesOf id rules

variable {r r' : Registry}

/-! ### What is kept tidy -/

theorem tidy_empty (engine : Formula.Engine) : Tidy { engine } := ⟨by simp, by simp⟩

theorem Tidy.registerCalculation (h : r.Tidy) (fieldId formula : String) (mode : UpdateMode)
    (format : FormatOptions) : (r.registerCalculation fieldId formula mode format).Tidy :=
  ⟨forall_getElem?_insert h.calculations ⟨rfl, rfl⟩, h.rules⟩

theorem Tidy.removeCalculation (h : r.Tidy) (fieldId : String) : (r.removeCalculation fieldId).Tidy := by
  unfold Registry.removeCalculation
  split
  · exact ⟨forall_getElem?_erase h.calculations, h.rules⟩
  · exact h

theorem Tidy.own_rulesOf (h : r.Tidy) {fieldId : String} {rule : ValidationRule} (hrule : rule ∈ r.rulesOf fieldId) :
    rule.fieldId = fieldId := by
  unfold rulesOf at hrule
  cases hrules : r.rules[fieldId]? with
  | none => simp [hrules] at hrule
  | some rules => exact (h.rules fieldId rules hrules).own rule (by simpa [hrules] using hrule)

theorem Tidy.sorted_rulesOf (h : r.Tidy) (fieldId : String) : ValidationRule.Sorted (r.rulesOf fieldId) := by
  unfold rulesOf
  cases hrules : r.rules[fieldId]? with
  | none => exact List.Pairwise.nil
  | some rules => exact (h.rules fieldId rules hrules).sorted

theorem Tidy.registerRule (h : r.Tidy) (rule : ValidationRule) : (r.registerRule rule).Tidy := by
  refine ⟨h.calculations, forall_getElem?_insert h.rules ⟨?_, fun other hother => ?_, ?_⟩⟩
  · exact List.ne_nil_of_mem (ValidationRule.mem_insertInto.mpr (.inl rfl))
  · rcases ValidationRule.mem_insertInto.mp hother with rfl | hother
    · rfl
    · exact h.own_rulesOf hother
  · exact ValidationRule.sorted_insertInto (h.sorted_rulesOf rule.fieldId)

theorem Tidy.removeRules (h : r.Tidy) (fieldId : String) : (r.removeRules fieldId).Tidy :=
  ⟨h.calculations, forall_getElem?_erase h.rules⟩

theorem tidy_imported (r : Registry) (config : Configuration) : (r.imported config).Tidy := by
  have hcalculations := List.foldlRecOn config.calculations
    (fun r field => r.registerCalculation field.fieldId field.formula field.updateMode field.format)
    (motive := Tidy) (tidy_empty r.engine) fun r hr field _ => hr.registerCalculation _ _ _ _
  exact List.foldlRecOn config.validations Registry.registerRule (motive := Tidy) hcalculations
    fun r hr rule _ => hr.registerRule rule

theorem Reachable.tidy (h : r.Reachable) : r.Tidy := by
  induction h with
  | new => exact tidy_empty {}
  | registerCalculation _ fieldId formula mode format ih =>
    exact ih.registerCalculation fieldId formula mode format
  | removeCalculation _ fieldId ih => exact ih.removeCalculation fieldId
  | registerRule _ rule ih => exact ih.registerRule rule
  | removeRules _ fieldId ih => exact ih.removeRules fieldId
  | imported _ config => exact tidy_imported _ config
  | clear => exact tidy_empty _
  | evaluated _ engine ih => exact ⟨ih.calculations, ih.rules⟩

/-! ### What comes back from a configuration -/

/-- Registering fields that a registry holds makes another one hold them as well. -/
private theorem calculations_foldl (h : r.Tidy) {fields : List CalculationField}
    (hfields : ∀ field ∈ fields, r.calculations[field.fieldId]? = some field) (id : String) :
    (fields.foldl (fun r field => r.registerCalculation field.fieldId field.formula field.updateMode field.format)
      r').calculations[id]? =
      if id ∈ fields.map (·.fieldId) then r.calculations[id]? else r'.calculations[id]? := by
  induction fields generalizing r' with
  | nil => simp
  | cons field rest ih =>
    simp only [List.mem_cons, forall_eq_or_imp] at hfields
    obtain ⟨hfield, hrest⟩ := hfields
    have hsame : (⟨field.fieldId, field.formula, Formula.dependencies field.formula, field.updateMode,
        field.format⟩ : CalculationField) = field := by
      rw [← (h.calculations _ _ hfield).2]
    rw [List.foldl_cons, ih hrest]
    by_cases hmem : id ∈ rest.map (·.fieldId)
    · simp [hmem]
    · simp only [hmem, Registry.registerCalculation, hsame, List.map_cons, List.mem_cons, or_false]
      by_cases hid : id = field.fieldId
      · subst hid
        simp [hfield]
      · simp [hid, getElem?_insert_of_ne (Ne.symm hid)]

private theorem rules_foldl_registerCalculation (fields : List CalculationField) :
    (fields.foldl (fun r field => r.registerCalculation field.fieldId field.formula field.updateMode field.format)
      r).rules = r.rules :=
  List.foldlRecOn fields _ (motive := fun r' : Registry => r'.rules = r.rules) rfl fun _ h _ _ => h

private theorem calculations_foldl_registerRule (rules : List ValidationRule) :
    (rules.foldl Registry.registerRule r).calculations = r.calculations :=
  List.foldlRecOn rules _ (motive := fun r' : Registry => r'.calculations = r.calculations) rfl
    fun _ h _ _ => h

theorem rulesOf_registerRule (rule : ValidationRule) (fieldId : String) : (r.registerRule rule).rulesOf fieldId =
    if rule.fieldId = fieldId then rule.insertInto (r.rulesOf fieldId) else r.rulesOf fieldId := by
  unfold rulesOf Registry.registerRule
  split
  · next heq => simp [← heq, rulesOf]
  · next hne => rw [getElem?_insert_of_ne hne]

/-- The rules of a field depend on the registrations for this field alone. -/
theorem rulesOf_foldl_registerRule (rules : List ValidationRule) (fieldId : String) :
    (rules.foldl Registry.registerRule r).rulesOf fieldId =
      (rules.filter (·.fieldId = fieldId)).foldl (fun sorted rule => rule.insertInto sorted) (r.rulesOf fieldId) := by
  induction rules generalizing r with
  | nil => rfl
  | cons rule rest ih =>
    rw [List.foldl_cons, ih, rulesOf_registerRule, List.filter_cons]
    by_cases hown : rule.fieldId = fieldId <;> simp [hown]

/-- The saved rules of a field are those that the registry holds, in their order. -/
theorem Tidy.filter_exported (h : r.Tidy) (fieldId : String) :
    r.exported.validations.filter (·.fieldId = fieldId) = r.rulesOf fieldId := by
  have hother : ∀ (id : String) (rules : List ValidationRule), r.rules[id]? = some rules → id ≠ fieldId →
      rules.filter (·.fieldId = fieldId) = [] := by
    intro id rules hrules hne
    rw [List.filter_eq_nil_iff]
    intro rule hrule
    rw [(h.rules id rules hrules).own rule hrule, decide_eq_true_eq]
    exact hne
  have hflat : r.exported.validations.filter (·.fieldId = fieldId) =
      r.rules.values.flatMap (List.filter (·.fieldId = fieldId)) := by
    rw [exported, List.flatten_eq_flatMap, List.filter_flatMap]
    rfl
  rw [hflat, flatMap_values hother, rulesOf]
  cases hrules : r.rules[fieldId]? with
  | none => rfl
  | some rules =>
    have hown := (h.rules fieldId rules hrules).own
    simpa using hown

/-- Tidy rules are stored exactly for the fields that have some. -/
theorem Tidy.getElem?_rules (h : r.Tidy) (fieldId : String) :
    r.rules[fieldId]? = if r.rulesOf fieldId = [] then none else some (r.rulesOf fieldId) := by
  unfold rulesOf
  cases hrules : r.rules[fieldId]? with
  | none => rfl
  | some rules => simp [(h.rules fieldId rules hrules).ne_nil]

theorem calculations_imported (h : r.Tidy) (other : Registry) :
    (other.imported r.exported).calculations = r.calculations := by
  refine Std.ExtTreeMap.ext_getElem? fun id => ?_
  have hfields : ∀ field ∈ r.exported.calculations, r.calculations[field.fieldId]? = some field := by
    intro field hfield
    obtain ⟨key, hkey⟩ := mem_values.mp hfield
    rw [(h.calculations key field hkey).1, hkey]
  rw [imported, calculations_foldl_registerRule, calculations_foldl h hfields]
  split
  · rfl
  · next hmem =>
    -- a field that is not saved is not held either
    cases hid : r.calculations[id]? with
    | none => simp [Registry.clear]
    | some field =>
      refine absurd (List.mem_map.mpr ⟨field, mem_values.mpr ⟨id, hid⟩, ?_⟩) hmem
      exact (h.calculations id field hid).1

theorem rules_imported (h : r.Tidy) (other : Registry) : (other.imported r.exported).rules = r.rules := by
  refine Std.ExtTreeMap.ext_getElem? fun id => ?_
  have hrules : (other.imported r.exported).rulesOf id = r.rulesOf id := by
    have hnone : ∀ r' : Registry, r'.rules = ∅ → r'.rulesOf id = [] := fun r' hr' => by simp [rulesOf, hr']
    rw [imported, rulesOf_foldl_registerRule, h.filter_exported,
      hnone _ (rules_foldl_registerCalculation r.exported.calculations), ValidationRule.foldl_insertInto]
    · rfl
    · exact h.sorted_rulesOf id
  rw [(tidy_imported other r.exported).getElem?_rules, h.getElem?_rules, hrules]

/-- The graph is determined by the contents. -/
theorem InStep.graph_eq (h : r.InStep) (h' : r'.InStep) (hcalculations : r'.calculations = r.calculations)
    (hrules : r'.rules = r.rules) : r'.graph = r.graph := by
  have hnames : ∀ n, r'.precedentNames n = r.precedentNames n := by
    intro n
    cases n with
    | field id => simp only [precedentNames, calculation?, hcalculations]
    | rules id => simp only [precedentNames, hrules]
  refine h'.balanced.ext h.balanced fun p d => ?_
  rw [h'.edge_iff, h.edge_iff, hnames]

theorem graph_imported (h : r.Reachable) (other : Registry) : (other.imported r.exported).graph = r.graph :=
  h.inStep.graph_eq (inStep_imported other r.exported) (calculations_imported h.tidy other)
    (rules_imported h.tidy other)

/-- The edges into the rules of a field that has some come from the field and from what its rules refer to. -/
theorem edge_rules_iff (h : r.Reachable) {p : Node} {fieldId : String} :
    r.graph.Edge p (.rules fieldId) ↔ r.rulesOf fieldId ≠ [] ∧ (p = .field fieldId ∨
      ∃ rule ∈ r.rulesOf fieldId, ∃ name ∈ Formula.dependencies rule.formula, p = .field name) := by
  rw [h.inStep.edge_iff, precedentNames, h.tidy.getElem?_rules]
  by_cases hrules : r.rulesOf fieldId = []
  · simp [hrules]
  · simp only [hrules, ↓reduceIte, Option.elim_some, ruleDependencies, List.mem_cons, List.mem_flatMap,
      exists_eq_or_imp, ne_eq, not_false_eq_true, true_and]
    refine or_congr_right ⟨?_, ?_⟩
    · rintro ⟨name, ⟨rule, hrule, hname⟩, rfl⟩
      exact ⟨rule, hrule, name, hname, rfl⟩
    · rintro ⟨rule, hrule, name, hname, rfl⟩
      exact ⟨name, ⟨rule, hrule, hname⟩, rfl⟩

/-- The graph of a registry is a function of its contents, whatever was registered and removed before: a calculated
field depends on what its formula refers to, the rules of a field that has some on the field and on what they refer
to, and there is no other edge. So a registry that is restored from a configuration holds the fields and rules of the
saved one, in the same order, and answers all questions on dependencies as that one does. -/
theorem imported_exported (h : r.Reachable) :
    (∀ id p, p ∈ r.graph.precedents (.field id) ↔ ∃ field, r.calculation? id = some field ∧
      ∃ name ∈ Formula.dependencies field.formula, p = .field name) ∧
    (∀ id p, p ∈ r.graph.precedents (.rules id) ↔ r.rulesOf id ≠ [] ∧ (p = .field id ∨
      ∃ rule ∈ r.rulesOf id, ∃ name ∈ Formula.dependencies rule.formula, p = .field name)) ∧
    (∀ p d, d ∈ r.graph.dependents p ↔ p ∈ r.graph.precedents d) ∧
    (∀ r', Reachable r' → r'.calculations = r.calculations → r'.rules = r.rules → r'.graph = r.graph) ∧
    ∀ other : Registry, let restored := other.imported r.exported
      restored.calculations = r.calculations ∧ restored.rules = r.rules ∧
      (∀ changed, restored.affectedFields changed = r.affectedFields changed) ∧
      (∀ changed, restored.affectedRules changed = r.affectedRules changed) ∧
      restored.circularFields = r.circularFields := by
  have hbalanced := h.inStep.balanced
  refine ⟨fun id p => ?_, fun id p => ?_, fun p d => ?_, fun r' h' => h.inStep.graph_eq h'.inStep, fun other => ?_⟩
  · rw [hbalanced.mem_precedents, h.inStep.edge_field_iff]
  · rw [hbalanced.mem_precedents, edge_rules_iff h]
  · rw [hbalanced.mem_precedents, Graph.mem_dependents]
  · have hcalculations := calculations_imported h.tidy other
    have hgraph := graph_imported h other
    refine ⟨hcalculations, rules_imported h.tidy other, fun changed => ?_, fun changed => ?_, ?_⟩
    · rw [affectedFields, affectedFields, hgraph, hcalculations]
    · rw [affectedRules, affectedRules, hgraph]
    · rw [circularFields, circularFields, hgraph, hcalculations]

/-- A total that was registered anew with a reference to itself, with two rules in the order of their priorities,
after a field and its rule were removed. -/
def ledger : Registry :=
  ({} : Registry)
    |>.registerRule ⟨"Total", "[Total]<[Limit]", "Too high", .error, 5⟩
    |>.registerCalculation "Total" "[Price]*2" .realtime {}
    |>.registerCalculation "Net" "[Total]-[Total]*[Tax]" .realtime {}
    |>.registerCalculation "Gross" "[Price]" .realtime {}
    |>.registerRule ⟨"Gross", "[Net]>0", "Nothing left", .warning, 0⟩
    |>.registerRule ⟨"Total", "[Net]>0", "Nothing left", .warning, 1⟩
    |>.registerCalculation "Total" "[Total]+[Qty]" .realtime {}
    |>.removeCalculation "Gross"
    |>.removeRules "Gross"

theorem reachable_ledger : ledger.Reachable := by
  unfold ledger
  exact Reachable.new.registerRule _
    |>.registerCalculation _ _ _ _
    |>.registerCalculation _ _ _ _
    |>.registerCalculation _ _ _ _
    |>.registerRule _
    |>.registerRule _
    |>.registerCalculation _ _ _ _
    |>.removeCalculation _
    |>.removeRules _

/-- A registry that holds something else takes over the ledger. -/
theorem imported_exported_ledger :
    let other := ({} : Registry).registerCalculation "Qty" "[Net]" .realtime {}
    ledger.Reachable ∧
      ledger.graph.precedents (.field "Total") = [.field "Qty", .field "Total"] ∧
      ledger.graph.precedents (.rules "Total") = [.field "Limit", .field "Net", .field "Total"] ∧
      (ledger.rulesOf "Total").map (·.priority) = [1, 5] ∧
      (other.imported ledger.exported).rules = ledger.rules ∧
      (other.imported ledger.exported).affectedFields "Qty" = ["Total", "Net"] ∧
      (other.imported ledger.exported).circularFields = ["Total"] := by
  intro other
  obtain ⟨-, -, -, -, hrestored⟩ := imported_exported reachable_ledger
  obtain ⟨-, hrules, haffected, -, hcircular⟩ := hrestored other
  refine ⟨reachable_ledger, by decide +kernel, by decide +kernel, by decide +kernel, hrules, ?_, ?_⟩
  · rw [haffected]
    decide +kernel
  · rw [hcircular]
    decide +kernel

end Registry

end FormRules
