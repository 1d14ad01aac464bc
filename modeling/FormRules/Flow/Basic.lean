import FormRules.Flow.Event
import FormRules.Flow.Section
import FormRules.Flow.State
import FormRules.Flow.Timer

/-!
# Flows

A flow leads through the sections of a form. It owns the sections and what it remembers of the way, the
pending advance, and the listeners to its events; the form data is given to each operation that looks at it.

This module has what does not move: sections, saved states and options. What fails does so because of
`FlowError`.
-/

namespace FormRules

open Formula (Context)

structure FlowOptions where
  /-- Whether one may go back. -/
  allowBack : Bool := true
  deriving DecidableEq, Repr

inductive FlowError where
  | notFound (id : String)
  | notVisible (id : String)
  | backDisabled
  | incomplete (id : String)
  deriving DecidableEq, Repr

def FlowError.message : FlowError → String
  | notFound id => "Section not found: " ++ id
  | notVisible id => "Section is not visible: " ++ id
  | backDisabled => "Back navigation is disabled"
  | incomplete id => "Section is incomplete: " ++ id

structure Flow where
  options : FlowOptions := {}
  sections : List Section := []
  state : FlowState := {}
  timer : Timer := {}
  engine : Formula.Engine := {}
  bus : Bus := {}

namespace Flow

/-- Adds a section or replaces the one with its id. -/
def register (flow : Flow) (s : Section) : Flow := { flow with sections := s.placeInto flow.sections }

def section? (flow : Flow) (id : String) : Option Section := flow.sections.find? (·.id = id)

def isRegistered (flow : Flow) (id : String) : Bool := flow.sections.any (·.id = id)

def current? (flow : Flow) : Option Section := flow.state.current?.bind flow.section?

/-- Removes a section and every trace of it. -/
def remove (flow : Flow) (id : String) : Flow :=
  if flow.isRegistered id then
    { flow with
      sections := flow.sections.filter (·.id ≠ id)
      state := flow.state.forget id
      timer := if flow.timer.isPendingFor id then .cancelled else flow.timer }
  else flow

/-- Replaces the state by a saved one, of which only registered sections are kept. -/
def importState (flow : Flow) (state : FlowState) : Flow :=
  { flow with state := state.restrict flow.isRegistered, timer := .cancelled }

/-- Starts over; sections and listeners stay. -/
def reset (flow : Flow) : Flow := { flow with state := {}, timer := .cancelled }

/-- Cancels the pending advance. -/
def cancelAdvance (flow : Flow) : Flow := { flow with timer := .cancelled }

def emit (flow : Flow) (event : Event) : Flow := { flow with bus := flow.bus.emit event }

/-- Tells of each section whether it is visible. -/
def survey (flow : Flow) (ctx : Context) : List (Section × Bool) × Flow :=
  let (shown, engine) := Section.survey ctx flow.sections flow.engine
  (shown, { flow with engine })

/-- The visible sections in the order of the form. -/
def visibleSections (flow : Flow) (ctx : Context) : List Section × Flow :=
  let (shown, flow) := flow.survey ctx
  ((shown.filter (·.2)).map (·.1), flow)

/-- Asks something of a section, if it is registered. -/
def ask (flow : Flow) (id : String) (question : Section → Formula.Engine → Bool × Formula.Engine) :
    Bool × Flow :=
  match flow.section? id with
  | some s =>
    let (yes, engine) := question s flow.engine
    (yes, { flow with engine })
  | none => (false, flow)

def isVisible (flow : Flow) (ctx : Context) (id : String) : Bool × Flow := flow.ask id (·.isVisible ctx)

def isRequired (flow : Flow) (ctx : Context) (id : String) : Bool × Flow := flow.ask id (·.isRequired ctx)

def isComplete (flow : Flow) (ctx : Context) (id : String) : Bool × Flow := flow.ask id (·.isComplete ctx)

end Flow

end FormRules
