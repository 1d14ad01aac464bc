import FormRules.Flow.Navigation

/-!
# Keeping up with the data

`recalculate` is called when the form data has changed: a current section that is no longer visible gives way
to the next visible one, and an advance is set, kept or cancelled as the current section asks for. `poll`
performs an advance that is due, if the section to be left is still current, visible, complete and to be left
by itself.

The instant of a call is when it happens; the context has the instant that formulas see.
-/

namespace FormRules.Flow

open Formula (Context)

/-- The section that takes the place of a hidden one. -/
def replacement? (shown : List (Section × Bool)) (hidden : String) : Option String :=
  (nextShown? shown hidden).or (firstShown? shown)

/-- Makes sure that the current section is visible. -/
def settle (flow : Flow) (shown : List (Section × Bool)) : Flow :=
  match flow.state.current? with
  | none => flow
  | some current =>
    if shown.any fun (s, visible) => s.id = current && visible then flow
    else match replacement? shown current with
      | some id => flow.enter id false
      | none => { flow with state := { flow.state with current? := none }, timer := .cancelled }

/-- Sets, keeps or cancels the advance of the current section. -/
def updateAdvance (flow : Flow) (ctx : Context) (now : Instant) : Flow :=
  match flow.current? with
  | none => flow.cancelAdvance
  | some s =>
    if s.autoAdvance then
      let (complete, flow) := flow.isComplete ctx s.id
      if complete then
        -- an advance that is already pending keeps its due time
        if flow.timer.isPendingFor s.id then flow
        else { flow with timer := .schedule s.id now s.advanceDelay }
      else flow.cancelAdvance
    else flow.cancelAdvance

/-- Determines visibility anew after a change of the data. -/
def recalculate (flow : Flow) (ctx : Context) (now : Instant) : Flow :=
  let (shown, flow) := flow.survey ctx
  let flow := (flow.settle shown).updateAdvance ctx now
  flow.emit (.flowRecalculated flow.state.current? ((shown.filter (·.2)).map (·.1.id)))

/-- Whether a section is still to be left by itself. -/
def advanceHolds (flow : Flow) (ctx : Context) (id : String) : Bool × Flow :=
  if flow.state.current? = some id ∧ (flow.section? id).any (·.autoAdvance) then
    let (visible, flow) := flow.isVisible ctx id
    if visible then flow.isComplete ctx id else (false, flow)
  else (false, flow)

/-- Performs the pending advance if it is due; one that no longer holds is dropped. -/
def poll (flow : Flow) (ctx : Context) (now : Instant) : Except FlowError (Option String) × Flow :=
  match flow.timer.takeDue now with
  | (none, _) => (.ok none, flow)
  | (some advance, timer) =>
    let (holds, flow) := { flow with timer }.advanceHolds ctx advance.sectionId
    if holds then flow.navigateNext ctx true else (.ok none, flow)

end FormRules.Flow
