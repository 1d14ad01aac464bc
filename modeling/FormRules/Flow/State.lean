import Std.Data.ExtTreeSet

/-!
# The state of a flow

What a flow remembers of the way through a form: the current section, the sections that were completed and
visited, and the sections that were current before. Sections are known by their ids.
-/

namespace FormRules

structure FlowState where
  current? : Option String := none
  completed : Std.ExtTreeSet String compare := ∅
  visited : Std.ExtTreeSet String compare := ∅
  /-- The sections that were current before, the latest first. -/
  history : List String := []

namespace FlowState

/-- Forgets everything about a section. -/
def forget (state : FlowState) (id : String) : FlowState where
  current? := state.current?.filter (· ≠ id)
  completed := state.completed.erase id
  visited := state.visited.erase id
  history := state.history.filter (· ≠ id)

/-- Forgets everything about sections that are not known. -/
def restrict (state : FlowState) (known : String → Bool) : FlowState where
  current? := state.current?.filter known
  completed := state.completed.filter known
  visited := state.visited.filter known
  history := state.history.filter known

end FlowState

end FormRules
