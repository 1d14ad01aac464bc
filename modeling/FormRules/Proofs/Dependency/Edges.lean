import Mathlib.Tactic.Tauto
import FormRules.Dependency.Graph

/-!
# The edges of a dependency graph

A graph is used through its edge relation: `Edge g p d` says that `d` is stored among the dependents of `p`.

* The two maps of a graph that is `Balanced` hold the same edges, and neither holds an empty set. So balanced graphs
  with the same edges are equal (`Balanced.ext`).
* `addEdge` adds one edge, `clearPrecedents` takes those into a node, `clearNode` these and those out of it, and
  `setPrecedents` replaces those into a node by edges from the named fields; each of them keeps a graph balanced.
-/

namespace FormRules.Dependency

namespace Neighbours

/-- One node is stored among the neighbours of another. -/
def Has (m : Neighbours) (node other : Node) : Prop := other ∈ m[node]?.getD ∅

/-- Every stored set has a member. -/
def HasNoEmpty (m : Neighbours) : Prop := ∀ (node : Node) (set : NodeSet), m[node]? = some set → set ≠ ∅

theorem mem_of {m : Neighbours} {node other : Node} : other ∈ of m node ↔ Has m node other :=
  Std.ExtTreeSet.mem_toList

/-- Only nodes that have an entry have neighbours. -/
theorem Has.mem_keys {m : Neighbours} {node other : Node} (h : Has m node other) : node ∈ m.keys := by
  rw [Std.ExtTreeMap.mem_keys]
  by_cases hentry : node ∈ m
  · exact hentry
  · rw [Has, Std.ExtTreeMap.getElem?_eq_none hentry] at h
    exact absurd h Std.ExtTreeSet.not_mem_empty

theorem not_has_empty {node other : Node} : ¬ Has ∅ node other := by simp [Has]

theorem has_insert {m : Neighbours} {node other a b : Node} :
    Has (insert m node other) a b ↔ (a = node ∧ b = other) ∨ Has m a b := by
  unfold Has insert
  rw [Std.ExtTreeMap.getElem?_alter]
  by_cases ha : node = a
  · subst ha
    simp only [Std.ReflCmp.compare_self, ↓reduceIte, Option.getD_some, Std.ExtTreeSet.mem_insert,
      Std.LawfulEqCmp.compare_eq_iff_eq, true_and]
    exact or_congr_left eq_comm
  · have hc : compare node a ≠ .eq := fun h => ha (Std.LawfulEqCmp.eq_of_compare h)
    simp [hc, Ne.symm ha]

theorem has_remove {m : Neighbours} {node other a b : Node} :
    Has (remove m node other) a b ↔ Has m a b ∧ ¬ (a = node ∧ b = other) := by
  unfold Has remove
  rw [Std.ExtTreeMap.getElem?_alter]
  by_cases ha : node = a
  · subst ha
    simp only [Std.ReflCmp.compare_self, ↓reduceIte]
    cases m[node]? with
    | none => simp
    | some set =>
      -- an emptied set is dropped, and then reads as the empty one
      have hdrop : ∀ rest : NodeSet,
          b ∈ (if rest.isEmpty then none else some rest).getD ∅ ↔ b ∈ rest := by
        intro rest
        split
        · next h => rw [Std.ExtTreeSet.isEmpty_iff.mp h]; rfl
        · rfl
      simp only [Option.bind_some, hdrop, Option.getD_some, Std.ExtTreeSet.mem_erase, ne_eq,
        Std.LawfulEqCmp.compare_eq_iff_eq, true_and]
      rw [and_comm, @eq_comm _ other b]
  · have hc : compare node a ≠ .eq := fun h => ha (Std.LawfulEqCmp.eq_of_compare h)
    simp [hc, Ne.symm ha]

theorem has_erase {m : Neighbours} {node a b : Node} :
    Has (m.erase node : Neighbours) a b ↔ Has m a b ∧ a ≠ node := by
  unfold Has
  rw [Std.ExtTreeMap.getElem?_erase]
  by_cases ha : node = a
  · subst ha; simp
  · have hc : compare node a ≠ .eq := fun h => ha (Std.LawfulEqCmp.eq_of_compare h)
    simp [hc, Ne.symm ha]

/-- Removing one neighbour from several nodes. -/
theorem has_foldl_remove {nodes : List Node} {m : Neighbours} {other a b : Node} :
    Has (nodes.foldl (remove · · other) m) a b ↔ Has m a b ∧ ¬ (a ∈ nodes ∧ b = other) := by
  induction nodes generalizing m with
  | nil => simp
  | cons node nodes ih =>
    rw [List.foldl_cons, ih, has_remove, List.mem_cons]
    tauto

theorem HasNoEmpty.insert {m : Neighbours} (h : m.HasNoEmpty) (node other : Node) :
    HasNoEmpty (insert m node other) := by
  intro a set ha
  rw [Neighbours.insert, Std.ExtTreeMap.getElem?_alter] at ha
  split at ha
  · cases ha
    exact Std.ExtTreeSet.insert_ne_empty
  · exact h a set ha

theorem HasNoEmpty.remove {m : Neighbours} (h : m.HasNoEmpty) (node other : Node) :
    HasNoEmpty (remove m node other) := by
  intro a set ha
  rw [Neighbours.remove, Std.ExtTreeMap.getElem?_alter] at ha
  split at ha
  · obtain ⟨old, -, hset⟩ := Option.bind_eq_some_iff.mp ha
    dsimp only at hset
    split at hset
    · cases hset
    · next hne =>
      cases hset
      exact fun hempty => hne (Std.ExtTreeSet.isEmpty_iff.mpr hempty)
  · exact h a set ha

theorem HasNoEmpty.erase {m : Neighbours} (h : m.HasNoEmpty) (node : Node) :
    HasNoEmpty (m.erase node : Neighbours) := by
  intro a set ha
  rw [Std.ExtTreeMap.getElem?_erase] at ha
  split at ha
  · cases ha
  · exact h a set ha

theorem HasNoEmpty.foldl_remove {nodes : List Node} {m : Neighbours} (h : m.HasNoEmpty) (other : Node) :
    HasNoEmpty (nodes.foldl (Neighbours.remove · · other) m) := by
  induction nodes generalizing m with
  | nil => exact h
  | cons node nodes ih => exact ih (h.remove node other)

private theorem HasNoEmpty.getElem?_eq {m : Neighbours} (h : m.HasNoEmpty) (node : Node) :
    m[node]? = if (m[node]?.getD ∅).isEmpty then none else some (m[node]?.getD ∅) := by
  cases hset : m[node]? with
  | none => simp
  | some set => simp [Std.ExtTreeSet.isEmpty_iff, h node set hset]

/-- Without empty sets, neighbours are determined by which nodes are stored among them. -/
theorem HasNoEmpty.ext {m m' : Neighbours} (h : m.HasNoEmpty) (h' : m'.HasNoEmpty)
    (hhas : ∀ a b, Has m a b ↔ Has m' a b) : m = m' := by
  refine Std.ExtTreeMap.ext_getElem? fun node => ?_
  have hset : m[node]?.getD ∅ = m'[node]?.getD ∅ := Std.ExtTreeSet.ext_mem fun b => hhas node b
  rw [h.getElem?_eq node, h'.getElem?_eq node, hset]

end Neighbours

namespace Graph

/-- An edge leads from a precedent to what depends on it. -/
def Edge (g : Graph) (precedent dependent : Node) : Prop := g.dependentsOf.Has precedent dependent

theorem mem_dependents {g : Graph} {p d : Node} : d ∈ g.dependents p ↔ g.Edge p d := Neighbours.mem_of

/-- Both maps hold the same edges, and no empty set. -/
structure Balanced (g : Graph) : Prop where
  transposed : ∀ p d, g.Edge p d ↔ g.precedentsOf.Has d p
  dependents_tight : g.dependentsOf.HasNoEmpty
  precedents_tight : g.precedentsOf.HasNoEmpty

theorem Balanced.mem_precedents {g : Graph} (h : g.Balanced) {p d : Node} :
    p ∈ g.precedents d ↔ g.Edge p d :=
  Neighbours.mem_of.trans (h.transposed p d).symm

/-- A balanced graph is determined by its edges. -/
theorem Balanced.ext {g g' : Graph} (h : g.Balanced) (h' : g'.Balanced) (hedge : ∀ p d, g.Edge p d ↔ g'.Edge p d) :
    g = g' := by
  have hdependents : g.dependentsOf = g'.dependentsOf := h.dependents_tight.ext h'.dependents_tight hedge
  have hprecedents : g.precedentsOf = g'.precedentsOf := by
    refine h.precedents_tight.ext h'.precedents_tight fun d p => ?_
    rw [← h.transposed, ← h'.transposed, hedge]
  cases g
  cases g'
  cases hdependents
  cases hprecedents
  rfl

theorem not_edge_empty {p d : Node} : ¬ ({} : Graph).Edge p d := Neighbours.not_has_empty

theorem balanced_empty : ({} : Graph).Balanced where
  transposed p d := by simp [not_edge_empty, Neighbours.not_has_empty]
  dependents_tight node set h := by simp at h
  precedents_tight node set h := by simp at h

theorem edge_addEdge {g : Graph} {p d a b : Node} :
    (g.addEdge p d).Edge a b ↔ (a = p ∧ b = d) ∨ g.Edge a b :=
  Neighbours.has_insert

theorem Balanced.addEdge {g : Graph} (h : g.Balanced) (p d : Node) : (g.addEdge p d).Balanced where
  transposed a b := by
    rw [edge_addEdge, h.transposed a b, Graph.addEdge, Neighbours.has_insert]
    tauto
  dependents_tight := h.dependents_tight.insert p d
  precedents_tight := h.precedents_tight.insert d p

theorem edge_clearPrecedents {g : Graph} (h : g.Balanced) {node a b : Node} :
    (g.clearPrecedents node).Edge a b ↔ g.Edge a b ∧ b ≠ node := by
  unfold Edge clearPrecedents
  rw [Neighbours.has_foldl_remove]
  constructor
  · rintro ⟨hab, hnot⟩
    refine ⟨hab, ?_⟩
    rintro rfl
    exact hnot ⟨h.mem_precedents.mpr hab, rfl⟩
  · rintro ⟨hab, hne⟩
    exact ⟨hab, fun hb => hne hb.2⟩

theorem Balanced.clearPrecedents {g : Graph} (h : g.Balanced) (node : Node) :
    (g.clearPrecedents node).Balanced where
  transposed a b := by
    rw [edge_clearPrecedents h, h.transposed a b, Graph.clearPrecedents, Neighbours.has_erase]
  dependents_tight := h.dependents_tight.foldl_remove node
  precedents_tight := h.precedents_tight.erase node

theorem edge_clearDependents {g : Graph} {node a b : Node} :
    (g.clearDependents node).Edge a b ↔ g.Edge a b ∧ a ≠ node :=
  Neighbours.has_erase

theorem Balanced.clearDependents {g : Graph} (h : g.Balanced) (node : Node) :
    (g.clearDependents node).Balanced where
  transposed a b := by
    have hedge : b ∈ g.dependents node ↔ g.Edge node b := mem_dependents
    rw [edge_clearDependents, Graph.clearDependents, Neighbours.has_foldl_remove, hedge, ← h.transposed a b]
    constructor
    · rintro ⟨hab, hne⟩
      exact ⟨hab, fun hb => hne hb.2⟩
    · rintro ⟨hab, hnot⟩
      refine ⟨hab, ?_⟩
      rintro rfl
      exact hnot ⟨hab, rfl⟩
  dependents_tight := h.dependents_tight.erase node
  precedents_tight := h.precedents_tight.foldl_remove node

/-- The edges into and out of the node are removed, a loop at the node among them. -/
theorem edge_clearNode {g : Graph} (h : g.Balanced) {node a b : Node} :
    (g.clearNode node).Edge a b ↔ g.Edge a b ∧ a ≠ node ∧ b ≠ node := by
  rw [clearNode, edge_clearDependents, edge_clearPrecedents h]
  tauto

theorem Balanced.clearNode {g : Graph} (h : g.Balanced) (node : Node) : (g.clearNode node).Balanced :=
  (h.clearPrecedents node).clearDependents node

/-- A balanced graph is empty if and only if it has no edge. -/
theorem Balanced.isEmpty_iff {g : Graph} (h : g.Balanced) : g.isEmpty = true ↔ ∀ p d, ¬ g.Edge p d := by
  have hempty : g.isEmpty = true ↔ g.dependentsOf = ∅ := Std.ExtTreeMap.isEmpty_iff
  rw [hempty]
  constructor
  · intro hnone p d
    rw [Edge, hnone]
    exact Neighbours.not_has_empty
  · intro hnone
    have hsame : ∀ p d, g.Edge p d ↔ ({} : Graph).Edge p d := fun p d => iff_of_false (hnone p d) not_edge_empty
    rw [h.ext balanced_empty hsame]

private theorem edge_foldl_addEdge {names : List String} {g : Graph} {node a b : Node} :
    (names.foldl (fun g name => g.addEdge (.field name) node) g).Edge a b ↔
      (b = node ∧ ∃ name ∈ names, a = .field name) ∨ g.Edge a b := by
  induction names generalizing g with
  | nil => simp
  | cons name names ih =>
    rw [List.foldl_cons, ih, edge_addEdge]
    simp only [List.mem_cons, exists_eq_or_imp]
    constructor
    · rintro (⟨hb, hn⟩ | ⟨ha, hb⟩ | he)
      · exact .inl ⟨hb, .inr hn⟩
      · exact .inl ⟨hb, .inl ha⟩
      · exact .inr he
    · rintro (⟨hb, ha | hn⟩ | he)
      · exact .inr (.inl ⟨ha, hb⟩)
      · exact .inl ⟨hb, hn⟩
      · exact .inr (.inr he)

private theorem Balanced.foldl_addEdge {names : List String} {g : Graph} (h : g.Balanced) (node : Node) :
    (names.foldl (fun g name => g.addEdge (.field name) node) g).Balanced := by
  induction names generalizing g with
  | nil => exact h
  | cons name names ih => exact ih (h.addEdge (.field name) node)

/-- The edges into the node are replaced, and no other edge is touched. -/
theorem edge_setPrecedents {g : Graph} (h : g.Balanced) {node a b : Node} {names : List String} :
    (g.setPrecedents node names).Edge a b ↔
      if b = node then ∃ name ∈ names, a = .field name else g.Edge a b := by
  unfold setPrecedents
  rw [edge_foldl_addEdge, edge_clearPrecedents h]
  split
  · next hb => simp [hb]
  · next hb => simp [hb]

theorem Balanced.setPrecedents {g : Graph} (h : g.Balanced) (node : Node) (names : List String) :
    (g.setPrecedents node names).Balanced :=
  (h.clearPrecedents node).foldl_addEdge node

end Graph

end FormRules.Dependency
