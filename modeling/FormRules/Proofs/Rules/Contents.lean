import Mathlib.Data.Set.Finite.Basic
import FormRules.Rules.Registry
import FormRules.Proofs.Dependency.Cycles
import FormRules.Proofs.Field

/-!
# The contents of a registry and its graph

The graph of a registry is in step with its contents when the edges into a field come from the dependencies of
its formula, those into the rules of a field from the field and what its rules refer to, and there is no other
edge. Every change of the contents keeps the two in step (`Reachable.inStep`), whatever was registered and
removed before. Without circular fields the graph has no cycle (`InStep.acyclic`).
-/

namespace FormRules.Registry

open Dependency (Graph Node)

/-- The registries that come about from an empty one. Evaluating a formula changes the engine alone. -/
inductive Reachable : Registry → Prop where
  | new : Reachable {}
  | registerCalculation {r : Registry} (h : Reachable r) (fieldId formula : String) (mode : UpdateMode)
      (format : FormatOptions) : Reachable (r.registerCalculation fieldId formula mode format)
  | removeCalculation {r : Registry} (h : Reachable r) (fieldId : String) :
      Reachable (r.removeCalculation fieldId)
  | registerRule {r : Registry} (h : Reachable r) (rule : ValidationRule) : Reachable (r.registerRule rule)
  | removeRules {r : Registry} (h : Reachable r) (fieldId : String) : Reachable (r.removeRules fieldId)
  | imported {r : Registry} (h : Reachable r) (config : Configuration) : Reachable (r.imported config)
  | clear {r : Registry} (h : Reachable r) : Reachable r.clear
  | evaluated {r : Registry} (h : Reachable r) (engine : Formula.Engine) : Reachable { r with engine }

/-- The names of the fields that a node depends on by the contents of the registry. -/
def precedentNames (r : Registry) : Node → List String
  | .field id => (r.calculation? id).elim [] fun field => Formula.dependencies field.formula
  | .rules id => r.rules[id]?.elim [] (ruleDependencies id)

/-- The edges of the graph are those that the contents call for. -/
structure InStep (r : Registry) : Prop where
  balanced : r.graph.Balanced
  edge_iff : ∀ p d, r.graph.Edge p d ↔ ∃ name ∈ r.precedentNames d, p = .field name

variable {r r' : Registry}

/-- Replacing the edges into one node answers a change of what this node depends on. -/
theorem InStep.setPrecedents (h : r.InStep) {node : Node} {names : List String}
    (hgraph : r'.graph = r.graph.setPrecedents node names) (hself : r'.precedentNames node = names)
    (hother : ∀ n, n ≠ node → r'.precedentNames n = r.precedentNames n) : r'.InStep where
  balanced := by
    rw [hgraph]
    exact h.balanced.setPrecedents node names
  edge_iff p d := by
    rw [hgraph, Graph.edge_setPrecedents h.balanced]
    split
    · next hd => rw [hd, hself]
    · next hd => rw [hother d hd, h.edge_iff]

theorem inStep_empty (engine : Formula.Engine) : InStep { engine } where
  balanced := Graph.balanced_empty
  edge_iff p d := by
    have hnames : ({ engine } : Registry).precedentNames d = [] := by
      cases d <;> simp [precedentNames, calculation?]
    rw [hnames]
    simpa using Graph.not_edge_empty

/-- Another engine leaves contents and graph as they are. -/
theorem InStep.evaluated (h : r.InStep) (engine : Formula.Engine) : InStep { r with engine } :=
  ⟨h.balanced, h.edge_iff⟩

theorem InStep.registerCalculation (h : r.InStep) (fieldId formula : String) (mode : UpdateMode)
    (format : FormatOptions) : (r.registerCalculation fieldId formula mode format).InStep := by
  refine h.setPrecedents rfl ?_ ?_
  · simp [precedentNames, calculation?, Registry.registerCalculation]
  · intro n hn
    cases n with
    | field id =>
      have hne : fieldId ≠ id := fun heq => hn (by rw [heq])
      simp only [precedentNames, calculation?, Registry.registerCalculation, getElem?_insert_of_ne hne]
    | rules id => rfl

theorem InStep.removeCalculation (h : r.InStep) (fieldId : String) : (r.removeCalculation fieldId).InStep := by
  unfold Registry.removeCalculation
  split
  · have hclear : r.graph.clearPrecedents (.field fieldId) = r.graph.setPrecedents (.field fieldId) [] := rfl
    refine h.setPrecedents hclear ?_ ?_
    · simp [precedentNames, calculation?]
    · intro n hn
      cases n with
      | field id =>
        have hne : fieldId ≠ id := fun heq => hn (by rw [heq])
        simp only [precedentNames, calculation?, getElem?_erase_of_ne hne]
      | rules id => rfl
  · exact h

theorem InStep.registerRule (h : r.InStep) (rule : ValidationRule) : (r.registerRule rule).InStep := by
  refine h.setPrecedents rfl ?_ ?_
  · simp [precedentNames, Registry.registerRule]
  · intro n hn
    cases n with
    | field id => rfl
    | rules id =>
      have hne : rule.fieldId ≠ id := fun heq => hn (by rw [heq])
      simp only [precedentNames, Registry.registerRule, getElem?_insert_of_ne hne]

theorem InStep.removeRules (h : r.InStep) (fieldId : String) : (r.removeRules fieldId).InStep := by
  have hclear : r.graph.clearPrecedents (.rules fieldId) = r.graph.setPrecedents (.rules fieldId) [] := rfl
  refine h.setPrecedents hclear ?_ ?_
  · simp [precedentNames, Registry.removeRules]
  · intro n hn
    cases n with
    | field id => rfl
    | rules id =>
      have hne : fieldId ≠ id := fun heq => hn (by rw [heq])
      simp only [precedentNames, Registry.removeRules, getElem?_erase_of_ne hne]

theorem inStep_clear (r : Registry) : r.clear.InStep := inStep_empty r.engine

theorem inStep_imported (r : Registry) (config : Configuration) : (r.imported config).InStep := by
  have hcalculations := List.foldlRecOn config.calculations
    (fun r field => r.registerCalculation field.fieldId field.formula field.updateMode field.format)
    (motive := InStep) (inStep_clear r) fun r hr field _ => hr.registerCalculation _ _ _ _
  exact List.foldlRecOn config.validations Registry.registerRule (motive := InStep) hcalculations
    fun r hr rule _ => hr.registerRule rule

theorem Reachable.inStep (h : r.Reachable) : r.InStep := by
  induction h with
  | new => exact inStep_empty {}
  | registerCalculation _ fieldId formula mode format ih =>
    exact ih.registerCalculation fieldId formula mode format
  | removeCalculation _ fieldId ih => exact ih.removeCalculation fieldId
  | registerRule _ rule ih => exact ih.registerRule rule
  | removeRules _ fieldId ih => exact ih.removeRules fieldId
  | imported _ config => exact inStep_imported _ config
  | clear => exact inStep_clear _
  | evaluated _ engine ih => exact ih.evaluated engine

/-- The edges into a calculated field come from the dependencies of its formula. -/
theorem InStep.edge_field_iff (h : r.InStep) {p : Node} {fieldId : String} :
    r.graph.Edge p (.field fieldId) ↔ ∃ field, r.calculation? fieldId = some field ∧
      ∃ name ∈ Formula.dependencies field.formula, p = .field name := by
  rw [h.edge_iff, precedentNames]
  cases r.calculation? fieldId with
  | none => simp
  | some field => simp

/-- The calculated fields among some nodes, by their ids. -/
theorem mem_calculated {nodes : List Node} {id : String} :
    id ∈ (nodes.filter fun node => node.isField && r.calculations.contains node.id).map Node.id ↔
      (r.calculation? id).isSome ∧ Node.field id ∈ nodes := by
  simp only [List.mem_map, List.mem_filter, Bool.and_eq_true, Std.ExtTreeMap.contains_eq_isSome_getElem?]
  constructor
  · rintro ⟨node, ⟨hnode, hfield, hsome⟩, rfl⟩
    cases node with
    | field id => exact ⟨hsome, hnode⟩
    | rules id => cases hfield
  · rintro ⟨hsome, hnode⟩
    exact ⟨.field id, ⟨hnode, rfl, hsome⟩, rfl⟩

/-- From the ids of calculated fields one gets back to their nodes. -/
theorem map_field_calculated (r : Registry) (nodes : List Node) :
    (((nodes.filter fun node => node.isField && r.calculations.contains node.id).map Node.id).map Node.field) =
      nodes.filter fun node => node.isField && r.calculations.contains node.id := by
  have hfield : ∀ node ∈ nodes.filter (fun node => node.isField && r.calculations.contains node.id),
      (Node.field ∘ Node.id) node = id node := by
    intro node hnode
    cases node with
    | field name => rfl
    | rules name => simp [Node.isField] at hnode
  rw [List.map_map, List.map_congr_left hfield, List.map_id]

/-- The calculated fields that depend on a changed field, directly or not. -/
theorem mem_affectedFields {changed id : String} : id ∈ r.affectedFields changed ↔
    (r.calculation? id).isSome ∧ id ≠ changed ∧ r.graph.Reaches (.field changed) (.field id) := by
  rw [affectedFields, mem_calculated, Graph.mem_affectedBy]
  simp

theorem nodup_affectedFields (r : Registry) (changed : String) : (r.affectedFields changed).Nodup := by
  apply List.Nodup.of_map Node.field
  rw [affectedFields, map_field_calculated]
  exact (Graph.nodup_affectedBy [.field changed]).filter _

/-- A calculated field is listed behind what it depends on, unless both lie on a cycle. -/
theorem ordered_affectedFields (changed : String) : (r.affectedFields changed).Pairwise fun a b =>
    r.graph.Edge (.field b) (.field a) → r.graph.Leads (.field a) (.field b) := by
  have hordered := (Graph.ordered_affectedBy (g := r.graph) [.field changed]).filter fun node =>
    node.isField && r.calculations.contains node.id
  rwa [← map_field_calculated, List.pairwise_map] at hordered

/-- The calculated fields that depend on themselves. -/
theorem mem_circularFields (h : r.graph.Balanced) {id : String} : id ∈ r.circularFields ↔
    (r.calculation? id).isSome ∧ r.graph.Reaches (.field id) (.field id) := by
  rw [circularFields, mem_calculated, h.mem_circularNodes]

theorem nodup_circularFields (r : Registry) : r.circularFields.Nodup := by
  apply List.Nodup.of_map Node.field
  rw [circularFields, map_field_calculated]
  exact (Graph.nodup_circularNodes r.graph).filter _

theorem ascending_circularFields (r : Registry) : r.circularFields.Pairwise fun a b => a < b := by
  have hascending := (Graph.ascending_circularNodes r.graph).filter fun node =>
    node.isField && r.calculations.contains node.id
  rw [← map_field_calculated, List.pairwise_map] at hascending
  exact hascending.imp fun hlt => lt_of_compare hlt

/-- A field on a cycle is a calculated one, and reported as circular. -/
theorem InStep.acyclic (h : r.InStep) (hcircular : r.circularFields = []) (n : Node) :
    ¬ r.graph.Reaches n n := by
  intro hcycle
  obtain ⟨d, hout, -⟩ := Relation.TransGen.head'_iff.mp hcycle
  obtain ⟨p, -, hin⟩ := Relation.TransGen.tail'_iff.mp hcycle
  -- only fields have edges out of them, and only registered ones have edges into them
  obtain ⟨id, -, rfl⟩ := (h.edge_iff n d).mp hout
  obtain ⟨field, hfield, -⟩ := h.edge_field_iff.mp hin
  have hmem : id ∈ r.circularFields :=
    (mem_circularFields h.balanced).mpr ⟨Option.isSome_of_eq_some hfield, hcycle⟩
  rw [hcircular] at hmem
  cases hmem

/-- Without circular fields, calculated fields can be treated after those that they depend on. -/
theorem InStep.wellFounded (h : r.InStep) (hcircular : r.circularFields = []) :
    WellFounded fun a b : { id // id ∈ r.calculations } => r.graph.Edge (.field a) (.field b) := by
  let reaches : { id // id ∈ r.calculations } → { id // id ∈ r.calculations } → Prop := fun a b =>
    r.graph.Reaches (.field a) (.field b)
  have : Finite { id // id ∈ r.calculations } := by
    refine Set.Finite.to_subtype (r.calculations.keys.finite_toSet.subset fun id hid => ?_)
    exact Std.ExtTreeMap.mem_keys.mpr hid
  have : IsTrans _ reaches := ⟨fun _ _ _ => Relation.TransGen.trans⟩
  have : Std.Irrefl reaches := ⟨fun a => h.acyclic hcircular (.field a)⟩
  exact Subrelation.wf Relation.TransGen.single (Finite.wellFounded_of_trans_of_irrefl reaches)

end FormRules.Registry
