import Std.Data.ExtTreeMap
import Std.Data.ExtTreeSet

/-!
# Dependency graphs

An edge leads from a precedent to what depends on it. Nodes are the fields of a form and, apart from them, the
validation rules of a field. The graph keeps the edges twice, by precedent and by dependent, and stores no
empty set:

* `addEdge`, `clearPrecedents`, `clearNode` and `setPrecedents` change both sides;
* `dependents` and `precedents` list the neighbours of a node in ascending order, fields before rules.
-/

namespace FormRules.Dependency

inductive Node where
  | field (id : String)
  | rules (id : String)
  deriving DecidableEq, Repr

namespace Node

/-- The field that a node belongs to. -/
def id : Node → String
  | field id => id
  | rules id => id

def isField : Node → Bool
  | field _ => true
  | rules _ => false

/-- The name that a node is listed under. -/
def label : Node → String
  | field id => id
  | rules id => id ++ " (validation)"

/-- Fields come before rules, and each of them by id. -/
def order : Node → Node → Ordering := compareLex (compareOn fun n => !n.isField) (compareOn id)

instance : Ord Node := ⟨order⟩

instance : Std.TransOrd Node := inferInstanceAs (Std.TransCmp (compareLex _ _))

private theorem compare_eq (a b : Node) :
    compare a b = (compare (!a.isField) (!b.isField)).then (compare a.id b.id) := rfl

instance : Std.LawfulEqOrd Node where
  compare_self := Std.ReflOrd.compare_self
  eq_of_compare {a b} h := by
    rw [compare_eq, Ordering.then_eq_eq] at h
    have hkind := Std.LawfulEqOrd.eq_of_compare h.1
    have hid := Std.LawfulEqOrd.eq_of_compare h.2
    cases a <;> cases b <;> simp_all [id, isField]

end Node

/-- Sets of nodes. -/
abbrev NodeSet := Std.ExtTreeSet Node compare

/-- The neighbours of nodes; a node without neighbours has no entry. -/
abbrev Neighbours := Std.ExtTreeMap Node NodeSet compare

namespace Neighbours

/-- Adds `other` to the neighbours of `node`. -/
def insert (m : Neighbours) (node other : Node) : Neighbours :=
  m.alter node fun entry => some ((entry.getD ∅).insert other)

/-- Removes `other` from the neighbours of `node`, and the entry if nothing is left. -/
def remove (m : Neighbours) (node other : Node) : Neighbours :=
  m.alter node fun entry => entry.bind fun set =>
    let rest := set.erase other
    if rest.isEmpty then none else some rest

/-- The neighbours of a node in ascending order. -/
def of (m : Neighbours) (node : Node) : List Node := (m[node]?.getD ∅).toList

end Neighbours

structure Graph where
  dependentsOf : Neighbours := ∅
  precedentsOf : Neighbours := ∅

namespace Graph

/-- The nodes that depend on a node directly. -/
def dependents (g : Graph) (node : Node) : List Node := Neighbours.of g.dependentsOf node

/-- The nodes that a node depends on directly. -/
def precedents (g : Graph) (node : Node) : List Node := Neighbours.of g.precedentsOf node

/-- No edge at all. -/
def isEmpty (g : Graph) : Bool := g.dependentsOf.isEmpty

/-- Makes one node depend on another. -/
def addEdge (g : Graph) (precedent dependent : Node) : Graph where
  dependentsOf := Neighbours.insert g.dependentsOf precedent dependent
  precedentsOf := Neighbours.insert g.precedentsOf dependent precedent

/-- Removes the edges into a node. -/
def clearPrecedents (g : Graph) (node : Node) : Graph where
  dependentsOf := (g.precedents node).foldl (Neighbours.remove · · node) g.dependentsOf
  precedentsOf := g.precedentsOf.erase node

/-- Removes the edges out of a node. -/
def clearDependents (g : Graph) (node : Node) : Graph where
  dependentsOf := g.dependentsOf.erase node
  precedentsOf := (g.dependents node).foldl (Neighbours.remove · · node) g.precedentsOf

/-- Removes the edges into and out of a node. -/
def clearNode (g : Graph) (node : Node) : Graph := (g.clearPrecedents node).clearDependents node

/-- Replaces the edges into a node by edges from the fields with the given names. -/
def setPrecedents (g : Graph) (node : Node) (names : List String) : Graph :=
  names.foldl (fun g name => g.addEdge (.field name) node) (g.clearPrecedents node)

end Graph

end FormRules.Dependency
