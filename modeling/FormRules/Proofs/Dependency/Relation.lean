import Mathlib.Data.Set.Insert
import FormRules.Proofs.Dependency.Edges

/-!
# A graph is a relation, whatever its history

Graphs are changed one `Change` at a time. Each change acts on the set of edges as it says (`Change.act`), so the
edges of a graph can be told from the changes alone, without its two maps (`edges_changeAll`). The maps
stay transposes of each other, without an empty set, through loops and repeated edges.
-/

namespace FormRules.Dependency

namespace Graph

/-- A change of a graph. -/
inductive Change where
  | addEdge (precedent dependent : Node)
  | setPrecedents (node : Node) (names : List String)
  | clearPrecedents (node : Node)
  | clearNode (node : Node)
  | clear

def change (g : Graph) : Change → Graph
  | .addEdge precedent dependent => g.addEdge precedent dependent
  | .setPrecedents node names => g.setPrecedents node names
  | .clearPrecedents node => g.clearPrecedents node
  | .clearNode node => g.clearNode node
  | .clear => {}

/-- The graph after some changes, one after the other. -/
def changeAll (g : Graph) (changes : List Change) : Graph := changes.foldl change g

/-- The edges of a graph, each from a precedent to what depends on it. -/
def edges (g : Graph) : Set (Node × Node) := {edge | g.Edge edge.1 edge.2}

/-- What a change makes of a set of edges. -/
def Change.act (edges : Set (Node × Node)) : Change → Set (Node × Node)
  | addEdge precedent dependent => insert (precedent, dependent) edges
  | setPrecedents node names =>
    {edge ∈ edges | edge.2 ≠ node} ∪ {edge | edge.2 = node ∧ ∃ name ∈ names, edge.1 = .field name}
  | clearPrecedents node => {edge ∈ edges | edge.2 ≠ node}
  | clearNode node => {edge ∈ edges | edge.1 ≠ node ∧ edge.2 ≠ node}
  | clear => ∅

theorem edges_empty : ({} : Graph).edges = ∅ := Set.eq_empty_of_forall_notMem fun _ => not_edge_empty

theorem Balanced.change {g : Graph} (h : g.Balanced) (c : Change) : (g.change c).Balanced := by
  cases c with
  | addEdge precedent dependent => exact h.addEdge precedent dependent
  | setPrecedents node names => exact h.setPrecedents node names
  | clearPrecedents node => exact h.clearPrecedents node
  | clearNode node => exact h.clearNode node
  | clear => exact balanced_empty

theorem Balanced.edges_change {g : Graph} (h : g.Balanced) (c : Change) : (g.change c).edges = c.act g.edges := by
  ext ⟨p, d⟩
  cases c with
  | addEdge precedent dependent =>
    have hedge : (g.addEdge precedent dependent).Edge p d ↔ (p = precedent ∧ d = dependent) ∨ g.Edge p d :=
      edge_addEdge
    simpa [edges, Graph.change, Change.act] using hedge
  | setPrecedents node names =>
    have hedge : (g.setPrecedents node names).Edge p d ↔
        if d = node then ∃ name ∈ names, p = .field name else g.Edge p d := edge_setPrecedents h
    by_cases hd : d = node
    · rw [if_pos hd] at hedge
      simpa [edges, Graph.change, Change.act, hd] using hedge
    · rw [if_neg hd] at hedge
      simpa [edges, Graph.change, Change.act, hd] using hedge
  | clearPrecedents node => exact edge_clearPrecedents h
  | clearNode node => exact edge_clearNode h
  | clear => exact iff_of_false not_edge_empty (Set.notMem_empty _)

/-- Any changes keep a graph balanced, and act on its edges one after the other. -/
theorem Balanced.changeAll {g : Graph} (h : g.Balanced) (changes : List Change) :
    (g.changeAll changes).Balanced ∧ (g.changeAll changes).edges = changes.foldl Change.act g.edges := by
  induction changes generalizing g with
  | nil => exact ⟨h, rfl⟩
  | cons c rest ih =>
    have hrest := ih (h.change c)
    rw [h.edges_change c] at hrest
    exact hrest

/-- After any changes of the empty graph, loops and repetitions included: its two maps hold the same edges, each from
its end, and no empty set; the edges are those that the changes make of none; the graph is empty if and only if it has
no edge; and a further change acts on the edges as it says. -/
theorem edges_changeAll (changes : List Change) :
    let g := ({} : Graph).changeAll changes
    (∀ p d, d ∈ g.dependents p ↔ p ∈ g.precedents d) ∧
      (∀ (node : Node) (set : NodeSet), g.dependentsOf[node]? = some set ∨ g.precedentsOf[node]? = some set → set ≠ ∅) ∧
      (∀ p d, d ∈ g.dependents p ↔ (p, d) ∈ changes.foldl Change.act ∅) ∧
      (g.isEmpty = true ↔ changes.foldl Change.act ∅ = ∅) ∧
      ∀ c : Change, (g.change c).edges = c.act g.edges := by
  intro g
  obtain ⟨hbalanced, hedges⟩ : g.Balanced ∧ g.edges = changes.foldl Change.act ({} : Graph).edges :=
    balanced_empty.changeAll changes
  rw [edges_empty] at hedges
  refine ⟨fun p d => ?_, ?_, fun p d => ?_, ?_, hbalanced.edges_change⟩
  · rw [mem_dependents, hbalanced.mem_precedents]
  · rintro node set (hset | hset)
    · exact hbalanced.dependents_tight node set hset
    · exact hbalanced.precedents_tight node set hset
  · rw [mem_dependents, ← hedges]
    rfl
  · have hnone : g.edges = ∅ ↔ ∀ p d, ¬ g.Edge p d := by
      rw [Set.eq_empty_iff_forall_notMem, Prod.forall]
      rfl
    rw [hbalanced.isEmpty_iff, ← hedges, hnone]

/-- A node with a loop loses all its edges, and what it led to keeps the others. -/
example :
    let loop : Change := .addEdge (.field "a") (.field "a")
    let g := ({} : Graph).changeAll [loop, loop, .addEdge (.field "a") (.rules "b"),
      .setPrecedents (.field "a") ["a", "c"], .addEdge (.field "c") (.rules "b"), .clearNode (.field "a")]
    g.dependents (.field "c") = [.rules "b"] ∧ g.precedents (.rules "b") = [.field "c"] ∧
      g.dependents (.field "a") = [] ∧ g.precedents (.field "a") = [] := by
  decide +kernel

end Graph

end FormRules.Dependency
