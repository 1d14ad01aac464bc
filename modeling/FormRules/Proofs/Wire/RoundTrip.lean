import FormRules.Proofs.Flow.Invariant
import FormRules.Proofs.Wire.Saved

/-!
# What is saved survives

A configuration is read back from its text as it was. The state of a flow that is read back into a flow keeps
what it says of the sections that are registered there, and nothing else of that flow changes but that no
advance is pending any more (`Flow.Restores`).
-/

namespace FormRules

theorem Configuration.ofText?_toText (config : Configuration) : Configuration.ofText? config.toText = some config := by
  rw [ofText?, toText, (Wire.faithful_configuration.plain config).read?_pretty, Option.bind_some,
    Wire.faithful_configuration.read_write]

namespace Flow

open Formula (Context)

theorem importStateText?_exportStateText (target flow : Flow) :
    target.importStateText? flow.exportStateText = some (target.importState flow.state) := by
  rw [importStateText?, exportStateText, (Wire.faithful_flowState.plain flow.state).read?_compact, Option.bind_some,
    Wire.faithful_flowState.read_write, Option.map_some]

/-- A flow has what a saved state says of the sections that are registered in another flow, and is else like
that flow with no advance pending. -/
structure Restores (restored target : Flow) (saved : FlowState) : Prop where
  current : restored.state.current? = saved.current?.filter target.isRegistered
  completed : ∀ id, id ∈ restored.state.completed ↔ id ∈ saved.completed ∧ target.isRegistered id = true
  visited : ∀ id, id ∈ restored.state.visited ↔ id ∈ saved.visited ∧ target.isRegistered id = true
  history : restored.state.history = saved.history.filter target.isRegistered
  pending : restored.timer.pending? = none
  rest : restored = { target with state := restored.state, timer := restored.timer }

theorem restores_importState (target : Flow) (saved : FlowState) :
    (target.importState saved).Restores target saved where
  current := rfl
  completed _ := mem_filter_iff
  visited _ := mem_filter_iff
  history := rfl
  pending := rfl
  rest := rfl

theorem restrict_eq_self {state : FlowState} {known : String → Bool} (h : state.Within known) :
    state.restrict known = state := by
  have hcurrent : state.current?.filter known = state.current? := by
    cases hid : state.current? with
    | none => rfl
    | some id => exact Option.filter_some_pos (h.current id hid)
  have hkeep (ids : Std.ExtTreeSet String compare) (hids : ∀ id ∈ ids, known id = true) :
      ids.filter known = ids := by
    refine Std.ExtTreeSet.ext_mem fun id => mem_filter_iff.trans ?_
    exact and_iff_left_of_imp (hids id)
  have hhistory : state.history.filter known = state.history := List.filter_eq_self.mpr h.history
  rw [FlowState.restrict, hcurrent, hkeep _ h.completed, hkeep _ h.visited, hhistory]

/-- Every configuration is read back from its text. The saved state of a flow, whatever was done with the flow
before, is read back into any flow as far as its sections are registered there: all of it if the two flows have
the same sections, and a second time to no effect. -/
theorem saved_survives :
    (∀ config : Configuration, Configuration.ofText? config.toText = some config) ∧
    ∀ (options : FlowOptions) (operations : List Operation) (target : Flow),
      let flow := run options operations
      ∃ restored, target.importStateText? flow.exportStateText = some restored ∧
        restored.Restores target flow.state ∧
        ((∀ id, target.isRegistered id = flow.isRegistered id) → restored.state = flow.state) ∧
        restored.importStateText? flow.exportStateText = some restored := by
  refine ⟨Configuration.ofText?_toText, fun options operations target => ?_⟩
  intro flow
  refine ⟨target.importState flow.state, importStateText?_exportStateText target flow,
    restores_importState target flow.state, fun hsame => ?_, ?_⟩
  · -- a flow's own state is about its own sections only
    have hwithin : flow.state.Within target.isRegistered :=
      (anchored_run options operations).within.mono fun id hid => (hsame id).trans hid
    exact restrict_eq_self hwithin
  · rw [importStateText?_exportStateText]
    rfl

/-- The sections of a form that needs no data. -/
def household : List Operation :=
  [.register { id := "person" }, .register { id := "home", order := 1 }, .register { id := "work", order := 2 }]

def noData : Context := ⟨∅, ∅, .ofMillis 0⟩

/-- The first section is entered twice. -/
def revisit : List Operation :=
  [.navigateNext noData false, .navigateNext noData false, .navigateTo noData "person", .navigateTo noData "work"]

/-- The state survives in a new flow with the same sections, where another section was current. -/
theorem saved_survives_revisit :
    let flow := run {} (household ++ revisit)
    let target := run {} (household.reverse ++ [.navigateNext noData false])
    (∀ id, target.isRegistered id = flow.isRegistered id) ∧
      flow.state.current? = some "work" ∧ flow.state.history = ["person", "home", "person"] ∧
      ∃ restored, target.importStateText? flow.exportStateText = some restored ∧ restored.state = flow.state := by
  intro flow target
  have hsections : target.sections = flow.sections := by decide +kernel
  have hsame : ∀ id, target.isRegistered id = flow.isRegistered id := fun id => by
    rw [isRegistered, isRegistered, hsections]
  obtain ⟨restored, hread, -, hstate, -⟩ := saved_survives.2 {} (household ++ revisit) target
  exact ⟨hsame, by decide +kernel, by decide +kernel, restored, hread, hstate hsame⟩

end Flow

end FormRules
