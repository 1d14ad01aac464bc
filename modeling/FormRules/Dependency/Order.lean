import FormRules.Dependency.Graph

/-!
# Order of recalculation

A depth-first walk along the edges lists every node that it reaches in front of those listed before it once
all its dependents are listed. So outside of cycles a node stands after everything it depends on.

* `affectedBy` lists what depends on some changed nodes, in the order in which it is to be computed;
* `isCircular` tells whether a node depends on itself, and `circularNodes` lists all that do.
-/

namespace FormRules.Dependency

/-- The nodes that a walk has met, and those it has left, the last one first. -/
structure Walk where
  met : NodeSet := ∅
  left : List Node := []

namespace Graph

/-- Walks to a node and all that depends on it, along paths of at most `steps` nodes. -/
def walk (g : Graph) : (steps : Nat) → Walk → Node → Walk
  | 0, w, _ => w
  | steps + 1, w, node =>
    if w.met.contains node then w
    else
      let w := (g.dependents node).foldl (walk g steps) { w with met := w.met.insert node }
      { w with left := node :: w.left }

/-- The nodes reached from some nodes, these included, in the order of computation. All nodes on a path but
the last one have dependents, which bounds its length. -/
def reachedFrom (g : Graph) (starts : List Node) : List Node :=
  (starts.foldl (g.walk (g.dependentsOf.size + 1)) {}).left

/-- The nodes that depend on some changed nodes, in the order of computation, without these. -/
def affectedBy (g : Graph) (changed : List Node) : List Node :=
  (g.reachedFrom changed).filter fun node => !changed.contains node

/-- Whether a node depends on itself. -/
def isCircular (g : Graph) (node : Node) : Bool := (g.reachedFrom (g.dependents node)).contains node

/-- The nodes that depend on themselves, in ascending order. -/
def circularNodes (g : Graph) : List Node := g.precedentsOf.keys.filter g.isCircular

end Graph

end FormRules.Dependency
