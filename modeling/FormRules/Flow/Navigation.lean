import FormRules.Flow.Basic

/-!
# Moving through a form

* `navigateTo` goes to any visible section;
* `navigateNext` leaves the current section, which must be complete unless it may be skipped or is not to be
  checked, for the next visible one; behind the last one the form is completed;
* `navigatePrevious` goes back to the latest section of the history that is still visible.

A section that becomes current is visited, and a pending advance of another section is cancelled.
-/

namespace FormRules.Flow

open Formula (Context)

/-- Makes a section current; the one before is added to the history if `remember` says so. -/
def enter (flow : Flow) (id : String) (remember : Bool) : Flow :=
  let before := flow.state.current?
  if before = some id then flow
  else
    let history := if remember then before.toList ++ flow.state.history else flow.state.history
    { flow with
      state := { flow.state with current? := some id, visited := flow.state.visited.insert id, history }
      timer := flow.timer.keptFor id
      bus := flow.bus.emit (.sectionChanged before id) }

/-- Goes to a section. -/
def navigateTo (flow : Flow) (ctx : Context) (id : String) : Except FlowError Unit × Flow :=
  if flow.isRegistered id then
    let (visible, flow) := flow.isVisible ctx id
    if visible then (.ok (), flow.enter id true) else (.error (.notVisible id), flow)
  else (.error (.notFound id), flow)

/-- The first visible section. -/
def firstShown? (shown : List (Section × Bool)) : Option String := (shown.find? (·.2)).map (·.1.id)

/-- The first visible section after the one with the given id. -/
def nextShown? (shown : List (Section × Bool)) (id : String) : Option String :=
  firstShown? ((shown.dropWhile (·.1.id ≠ id)).drop 1)

/-- Adds a section to the completed ones. -/
def markCompleted (flow : Flow) (id : String) : Flow :=
  { flow with state := { flow.state with completed := flow.state.completed.insert id } }

/-- Leaves the section `current` for the next visible one, or completes the form. -/
def leave (flow : Flow) (shown : List (Section × Bool)) (current : String) : Option String × Flow :=
  match nextShown? shown current with
  | some id => (some id, flow.enter id true)
  | none =>
    let flow := flow.cancelAdvance
    (none, flow.emit (.formCompleted flow.state.completed.toList))

/-- Goes to the next section, with or without a check of the current one. -/
def navigateNext (flow : Flow) (ctx : Context) (skipValidation : Bool) :
    Except FlowError (Option String) × Flow :=
  let (shown, flow) := flow.survey ctx
  match flow.state.current? with
  | none =>
    match firstShown? shown with
    | some id => (.ok (some id), flow.enter id true)
    | none => (.ok none, flow)
  | some current =>
    match flow.section? current with
    | none => (.error (.notFound current), flow)
    | some s =>
      let (complete, flow) := if skipValidation then (true, flow) else flow.isComplete ctx current
      if complete then
        let (next, flow) := (flow.markCompleted current).leave shown current
        (.ok next, flow)
      else if s.allowSkip then
        let (next, flow) := flow.leave shown current
        (.ok next, flow)
      else (.error (.incomplete current), flow.emit (.validationFailed current))

/-- Goes to the first section of a history that is visible and not current, and drops the history up to it. -/
def goBack (flow : Flow) (ctx : Context) : List String → Option String × Flow
  | [] => (none, { flow with state := { flow.state with history := [] } })
  | id :: rest =>
    -- going back to where one is would be no move
    if flow.state.current? = some id then flow.goBack ctx rest
    else
      let (visible, flow) := flow.isVisible ctx id
      if visible then (some id, { flow with state := { flow.state with history := rest } }.enter id false)
      else flow.goBack ctx rest

/-- Goes back to the latest section of the history that is still visible. -/
def navigatePrevious (flow : Flow) (ctx : Context) : Except FlowError (Option String) × Flow :=
  if flow.options.allowBack then
    let (id, flow) := flow.goBack ctx flow.state.history
    (.ok id, flow)
  else (.error .backDisabled, flow)

end FormRules.Flow
