import FormRules.Flow.Basic

/-!
# Progress

How far a form and a section of it are filled. Percentages are whole, a half rounded up, and zero of nothing.
-/

namespace FormRules

open Formula (Context)

/-- The whole percentage of a part. -/
def percentage (part total : Nat) : Nat := if total = 0 then 0 else (200 * part + total) / (2 * total)

structure FormProgress where
  visible : Nat
  completed : Nat
  required : Nat
  percent : Nat
  current? : Option String
  deriving DecidableEq, Repr

structure SectionProgress where
  sectionId : String
  total : Nat
  filled : Nat
  required : Nat
  filledRequired : Nat
  percent : Nat
  isComplete : Bool
  deriving DecidableEq, Repr

namespace Flow

/-- How many of some sections are required. -/
def countRequired (ctx : Context) : List Section → Formula.Engine → Nat × Formula.Engine
  | [], engine => (0, engine)
  | s :: rest, engine =>
    let (required, engine) := s.isRequired ctx engine
    let (count, engine) := countRequired ctx rest engine
    (required.toNat + count, engine)

/-- The progress through the visible sections. -/
def formProgress (flow : Flow) (ctx : Context) : FormProgress × Flow :=
  let (visible, flow) := flow.visibleSections ctx
  let completed := visible.countP fun s => flow.state.completed.contains s.id
  let (required, engine) := countRequired ctx visible flow.engine
  (⟨visible.length, completed, required, percentage completed visible.length, flow.state.current?⟩,
    { flow with engine })

/-- The progress through the fields of a section. -/
def sectionProgress (flow : Flow) (ctx : Context) (id : String) : Option SectionProgress × Flow :=
  match flow.section? id with
  | none => (none, flow)
  | some s =>
    let filled := s.fields.countP (Section.isFilled ctx)
    let required := s.fields.countP (Section.needs ctx)
    let filledRequired := s.fields.countP fun name => Section.isFilled ctx name && Section.needs ctx name
    let percent := percentage filled s.fields.length
    let (complete, flow) := flow.isComplete ctx id
    (some ⟨id, s.fields.length, filled, required, filledRequired, percent, complete⟩, flow)

end Flow

end FormRules
