import FormRules.Wire.Flow
import FormRules.Wire.Rules

/-!
# Reports of commands

What the commands have found out, as lines of text and as a document.
-/

namespace FormRules

open Formula (Context)

/-- The lines that tell whether a formula is in order; a mark below the formula shows where it is not. -/
def checkLines (formula : String) : Formula.Outcome Unit → List String
  | .ok () => ["ok     " ++ formula]
  | .error e =>
    let indent := "       "
    let mark := e.position?.map fun n => indent ++ String.ofList (List.replicate n ' ') ++ "^"
    ["error  " ++ formula] ++ mark.toList ++ [indent ++ e.message]

/-- What a change of a field has led to. -/
structure ChangeReport where
  calculated : List CalculatedValue
  violations : List Violation

namespace ChangeReport

def severityLabel : Severity → String
  | .error => "error"
  | .warning => "warning"
  | .info => "info"

def lines (report : ChangeReport) : List String :=
  report.calculated.map (fun c => c.fieldId ++ " = " ++ c.display) ++
    report.violations.map fun v => severityLabel v.severity ++ " " ++ v.fieldId ++ ": " ++ v.message

def json (report : ChangeReport) : Json :=
  .record [("calculated", Json.list Wire.calculatedValue report.calculated),
    ("violations", Json.list Wire.violation report.violations)]

end ChangeReport

/-- What there is to know about a section. -/
structure SectionReport where
  id : String
  title : String
  visible : Bool
  required : Bool
  complete : Bool
  current : Bool
  deriving DecidableEq, Repr

/-- Fills a text with blanks up to a length. -/
def padEnd (length : Nat) (s : String) : String := s ++ String.ofList (List.replicate (length - s.length) ' ')

namespace SectionReport

/-- Looks at a section. -/
def of (ctx : Context) (s : Section) (flow : Flow) : SectionReport × Flow :=
  let (visible, flow) := flow.isVisible ctx s.id
  let (required, flow) := flow.isRequired ctx s.id
  let (complete, flow) := flow.isComplete ctx s.id
  (⟨s.id, s.title, visible, required, complete, flow.state.current? = some s.id⟩, flow)

/-- Looks at some sections one after the other. -/
def all (ctx : Context) : List Section → Flow → List SectionReport × Flow
  | [], flow => ([], flow)
  | s :: rest, flow =>
    let (report, flow) := of ctx s flow
    let (reports, flow) := all ctx rest flow
    (report :: reports, flow)

def status (report : SectionReport) : String :=
  if !report.visible then "hidden" else if report.complete then "complete" else "incomplete"

def line (report : SectionReport) : String :=
  let mark := if report.current then ">" else " "
  let note := if report.visible && report.required then " (required)" else ""
  mark ++ " " ++ padEnd 16 report.id ++ " " ++ padEnd 10 report.status ++ " " ++ report.title ++ note

def json (report : SectionReport) : Json :=
  .record [("id", Json.text report.id), ("title", Json.text report.title),
    ("visible", some (.bool report.visible)), ("required", some (.bool report.required)),
    ("complete", some (.bool report.complete)), ("current", some (.bool report.current))]

end SectionReport

/-- What there is to know about a form. -/
structure FlowReport where
  sections : List SectionReport
  progress : FormProgress
  deriving DecidableEq, Repr

namespace FlowReport

def progressLine (p : FormProgress) : String :=
  "Progress: " ++ toString p.completed ++ "/" ++ toString p.visible ++ " sections (" ++
    toString p.percent ++ "%)"

def lines (report : FlowReport) : List String :=
  report.sections.map (·.line) ++ [progressLine report.progress]

def json (report : FlowReport) : Json :=
  .record [("sections", Json.list (·.json) report.sections), ("progress", Wire.formProgress report.progress)]

end FlowReport

end FormRules
