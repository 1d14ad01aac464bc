import FormRules.Proofs.Dependency.Relation
import FormRules.Proofs.Rules.Contents

/-!
# Circular fields

A calculated field refers to the names in its formula (`RefersTo`). As the graph of a registry is in step with its
contents, its paths between fields are chains of such references (`InStep.reaches_iff`); rules are at the end of a
path only. So the circular fields are those that refer to themselves, directly or through others, and
`circular_exact` says the same of the nodes of any graph.
-/

namespace FormRules.Registry

open Dependency (Graph Node)

/-- The formula of a calculated field refers to a name. -/
def RefersTo (r : Registry) (id name : String) : Prop :=
  ∃ field, r.calculation? id = some field ∧ name ∈ Formula.dependencies field.formula

variable {r : Registry}

theorem InStep.edge_iff_refersTo (h : r.InStep) {p : Node} {id : String} :
    r.graph.Edge p (.field id) ↔ ∃ name, p = .field name ∧ r.RefersTo id name := by
  rw [h.edge_field_iff]
  constructor
  · rintro ⟨field, hfield, name, hname, rfl⟩
    exact ⟨name, rfl, field, hfield, hname⟩
  · rintro ⟨name, rfl, field, hfield, hname⟩
    exact ⟨field, hfield, name, hname, rfl⟩

/-- A change of one field reaches another one through references, from this back to that. -/
theorem InStep.reaches_iff (h : r.InStep) {a b : String} :
    r.graph.Reaches (.field a) (.field b) ↔ Relation.TransGen r.RefersTo b a := by
  constructor
  · intro hreach
    generalize hnode : Node.field b = node at hreach
    induction hreach generalizing b with
    | single hedge =>
      subst hnode
      obtain ⟨name, hname, hrefers⟩ := h.edge_iff_refersTo.mp hedge
      cases hname
      exact .single hrefers
    | tail _ hedge ih =>
      subst hnode
      obtain ⟨name, hname, hrefers⟩ := h.edge_iff_refersTo.mp hedge
      exact .head hrefers (ih hname.symm)
  · intro hrefers
    induction hrefers with
    | single hlast => exact .single (h.edge_iff_refersTo.mpr ⟨_, rfl, hlast⟩)
    | tail _ hlast ih => exact .head (h.edge_iff_refersTo.mpr ⟨_, rfl, hlast⟩) ih

/-- In any graph a node is circular if and only if some path of at least one edge leads from it back to it, and the
search that keeps the nodes still to be looked at says the same. Whatever changes a graph has come through, its
circular nodes are listed once each and in ascending order, without those that only lead to a cycle or come behind
one. The circular fields of a registry are the calculated fields on a cycle of its graph, which are those that refer
to themselves, directly or through others; they are listed once each, by id. -/
theorem circular_exact :
    (∀ (g : Graph) (n : Node), (g.isCircular n = true ↔ g.Reaches n n) ∧
      g.isCircular n = g.finds n ∅ (g.dependents n).reverse) ∧
    (∀ changes : List Graph.Change, let g := ({} : Graph).changeAll changes
      (∀ n, n ∈ g.circularNodes ↔ g.Reaches n n) ∧ g.circularNodes.Nodup ∧
        g.circularNodes.Pairwise fun a b => compare a b = .lt) ∧
    ∀ r : Registry, r.Reachable →
      (∀ id, id ∈ r.circularFields ↔ (r.calculation? id).isSome ∧ r.graph.Reaches (.field id) (.field id)) ∧
      (∀ id, id ∈ r.circularFields ↔ Relation.TransGen r.RefersTo id id) ∧
      r.circularFields.Nodup ∧ r.circularFields.Pairwise fun a b => a < b := by
  refine ⟨fun g n => ⟨Graph.isCircular_iff, g.isCircular_eq_finds n⟩, fun changes => ?_, fun r hr => ?_⟩
  · have hbalanced := (Graph.balanced_empty.changeAll changes).1
    exact ⟨fun n => hbalanced.mem_circularNodes, Graph.nodup_circularNodes _, Graph.ascending_circularNodes _⟩
  · have hstep := hr.inStep
    have hmem : ∀ id, id ∈ r.circularFields ↔
        (r.calculation? id).isSome ∧ r.graph.Reaches (.field id) (.field id) :=
      fun id => mem_circularFields hstep.balanced
    refine ⟨hmem, fun id => ?_, nodup_circularFields r, ascending_circularFields r⟩
    rw [hmem, hstep.reaches_iff, and_iff_right_iff_imp]
    intro hcycle
    obtain ⟨name, ⟨field, hfield, -⟩, -⟩ := Relation.TransGen.head'_iff.mp hcycle
    exact Option.isSome_of_eq_some hfield

/-- Two cycles through `a`, a field that refers to itself, one that they all depend on, and one that depends on them
all. -/
def tangle : Registry :=
  ({} : Registry)
    |>.registerCalculation "a" "[b]+[c]" .realtime {}
    |>.registerCalculation "b" "[a]*2" .realtime {}
    |>.registerCalculation "c" "[a]-[first]" .realtime {}
    |>.registerCalculation "self" "[self]+[first]" .realtime {}
    |>.registerCalculation "first" "[x]/2" .realtime {}
    |>.registerCalculation "last" "[a]+[self]" .realtime {}
    |>.registerRule ⟨"a", "[a]>0", "Too low", .error, 0⟩

theorem circular_exact_tangle :
    tangle.Reachable ∧ tangle.circularFields = ["a", "b", "c", "self"] ∧
      Relation.TransGen tangle.RefersTo "a" "a" ∧ Relation.TransGen tangle.RefersTo "self" "self" ∧
      ¬ Relation.TransGen tangle.RefersTo "first" "first" ∧ ¬ Relation.TransGen tangle.RefersTo "last" "last" := by
  have hr : tangle.Reachable := by
    unfold tangle
    exact Reachable.new.registerCalculation _ _ _ _
      |>.registerCalculation _ _ _ _
      |>.registerCalculation _ _ _ _
      |>.registerCalculation _ _ _ _
      |>.registerCalculation _ _ _ _
      |>.registerCalculation _ _ _ _
      |>.registerRule _
  have hlist : tangle.circularFields = ["a", "b", "c", "self"] := by decide +kernel
  obtain ⟨-, hcycle, -, -⟩ := circular_exact.2.2 tangle hr
  rw [hlist] at hcycle
  refine ⟨hr, hlist, ?_, ?_, ?_, ?_⟩ <;> rw [← hcycle] <;> decide

end FormRules.Registry
