import FormRules.Formula.Engine

/-!
# Sections

A section is a group of fields that is shown, required and completed as a unit. Formulas decide these three:

* a section is visible unless its show condition fails;
* it is required if it has a required condition that holds;
* it is complete if its completion condition holds or, without one, if all its required fields are filled.

The sections of a form stand in the order of their numbers, equal ones by the time of registration.
-/

namespace FormRules

open Formula (Context Engine)

structure Section where
  id : String := ""
  title : String := ""
  /-- The names of the fields in the section. -/
  fields : List String := []
  showCondition? : Option String := none
  requiredCondition? : Option String := none
  completionCondition? : Option String := none
  order : Int32 := 0
  /-- The section may be left while it is incomplete. -/
  allowSkip : Bool := false
  /-- The form moves on by itself when the section is complete. -/
  autoAdvance : Bool := false
  /-- The wait before it does, in milliseconds. -/
  advanceDelay : UInt64 := 0
  deriving DecidableEq

/-- The field that a section refers to by a name: the one stored under the name, else the first in the order of
the fields that has it as an identifier. -/
def FieldMap.inSection? (fields : FieldMap) (name : String) : Option FieldMeta :=
  fields[name]?.or (fields.values.find? (·.isNamed name))

namespace Section

/-- A condition that is not blank. -/
def condition? (formula : Option String) : Option String :=
  formula.filter fun source => !Text.isBlankText source

def isVisible (s : Section) (ctx : Context) (engine : Engine) : Bool × Engine :=
  engine.holds ctx s.showCondition?

def isRequired (s : Section) (ctx : Context) (engine : Engine) : Bool × Engine :=
  match condition? s.requiredCondition? with
  | some formula => engine.holds ctx (some formula)
  | none => (false, engine)

/-- Whether a field of a section must be filled. -/
def needs (ctx : Context) (name : String) : Bool := (FieldMap.inSection? ctx.fields name).any (·.required)

/-- Whether a field of a section is filled. -/
def isFilled (ctx : Context) (name : String) : Bool := !(ctx.value name).isBlank

def isComplete (s : Section) (ctx : Context) (engine : Engine) : Bool × Engine :=
  match condition? s.completionCondition? with
  | some formula => engine.holds ctx (some formula)
  | none => ((s.fields.filter (needs ctx)).all (isFilled ctx), engine)

/-- Tells of each section whether it is visible. -/
def survey (ctx : Context) : List Section → Engine → List (Section × Bool) × Engine
  | [], engine => ([], engine)
  | s :: rest, engine =>
    let (visible, engine) := s.isVisible ctx engine
    let (others, engine) := survey ctx rest engine
    ((s, visible) :: others, engine)

/-- Adds a section behind those whose order is not greater. -/
def insertInto (s : Section) : List Section → List Section
  | [] => [s]
  | other :: rest => if s.order < other.order then s :: other :: rest else other :: s.insertInto rest

/-- Adds a section, or replaces the one with its id: in its place if the order is the same, else as a new
one. -/
def placeInto (s : Section) (sections : List Section) : List Section :=
  match sections.find? (·.id = s.id) with
  | some old =>
    if old.order = s.order then sections.map fun other => if other.id = s.id then s else other
    else s.insertInto (sections.filter (·.id ≠ s.id))
  | none => s.insertInto sections

end Section

end FormRules
