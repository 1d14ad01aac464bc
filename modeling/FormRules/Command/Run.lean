import FormRules.Command.Error
import FormRules.Command.Line
import FormRules.Command.Report
import FormRules.Rules.Recalculation
import FormRules.Rules.Validation
import FormRules.Wire.Rules

/-!
# Running commands

A command is run on the files that it reads and at an instant, and gives what it prints. It reads its files
one after the other and stops at the first one that is in error.
-/

namespace FormRules

open Formula (Context)

/-- The contents of files by their paths. -/
abbrev Files := String → Except ReadError String

/-- What a command prints, and why it failed if it did. -/
structure Printed where
  lines : List String := []
  error? : Option CommandError := none

/-- What the program leaves behind. -/
structure Response where
  exitCode : UInt32
  output : String
  errors : String
  deriving DecidableEq, Repr

namespace Files

/-- Reads what a file says. -/
def load {α : Type} (files : Files) (decode : Wire.Decoder α) (path : String) : Except CommandError α :=
  match files path with
  | .error e => .error (.unreadable path e)
  | .ok s =>
    match (Json.read? s).bind decode with
    | some a => .ok a
    | none => .error (.unparsable path)

/-- Reads what a file says, if there is one. -/
def loadOr {α : Type} (files : Files) (default : α) (decode : Wire.Decoder α) :
    Option String → Except CommandError α
  | some path => files.load decode path
  | none => .ok default

/-- The form data and the fields at an instant. -/
def context (files : Files) (form : FormFiles) (now : Instant) : Except CommandError Context := do
  let data ← files.loadOr ∅ Wire.formData? form.data?
  let fields ← files.loadOr ∅ Wire.fieldMap? form.fields?
  return ⟨data, fields, now⟩

end Files

namespace Printed

/-- Nothing but an error is printed if there is one. -/
def ofExcept : Except CommandError Printed → Printed
  | .ok printed => printed
  | .error e => { error? := some e }

def response (printed : Printed) : Response :=
  { exitCode := if printed.error?.isSome then 1 else 0
    output := String.join (printed.lines.map (· ++ "\n"))
    errors := (printed.error?.map (·.report)).getD "" }

end Printed

namespace Command

/-- Prints the value of a formula, below the expanded formula if it is wanted. -/
def runEvaluate (ctx : Context) (formula : String) (expand : Bool) : Printed :=
  match if expand then (Formula.expandFormula ctx formula).map some else .ok none with
  | .error e => { error? := some (.notExpanded e) }
  | .ok expanded =>
    match (({} : Formula.Engine).tryEvaluate ctx formula).1 with
    | .error e => { lines := expanded.toList, error? := some (.notEvaluated formula e) }
    | .ok value => { lines := expanded.toList ++ [value.toText] }

def runCheck (formulas : List String) : Printed :=
  let bad := formulas.countP fun formula => !Formula.isValid (some formula)
  { lines := formulas.flatMap fun formula => checkLines formula (Formula.check (some formula))
    error? := if bad = 0 then none else some (.malformed bad formulas.length) }

def runReferences (formula : String) : Printed :=
  match Formula.check (some formula) with
  | .error e => { error? := some (.invalidFormula formula e) }
  | .ok () => { lines := Formula.dependencies formula }

/-- Applies a change to a registry and checks the rules that it affects. -/
def runChange (ctx : Context) (configuration : Configuration) (changed : String) (json : Bool) : Printed :=
  let registry := ({} : Registry).imported configuration
  let (calculated, data, registry) := registry.applyChange ctx changed
  let (results, _) := registry.validateEach { ctx with data } (registry.affectedRules changed)
  let report : ChangeReport := ⟨calculated, results.flatMap (·.2)⟩
  { lines := if json then [report.json.pretty] else report.lines }

/-- Looks at all sections of a flow that has been brought up to date. -/
def runOverview (ctx : Context) (sections : List Section) (state? : Option FlowState) (json : Bool) :
    Printed :=
  let flow := sections.foldl Flow.register {}
  let flow := (state?.map flow.importState).getD flow
  let flow := flow.recalculate ctx ctx.now
  let (sections, flow) := SectionReport.all ctx flow.sections flow
  let (progress, _) := flow.formProgress ctx
  let report : FlowReport := ⟨sections, progress⟩
  { lines := if json then [report.json.pretty] else report.lines }

/-- Runs a command at an instant. -/
def run (files : Files) (now : Instant) : Command → Printed
  | evaluate formula form now? expand => .ofExcept do
    let ctx ← files.context form (now?.getD now)
    return runEvaluate ctx formula expand
  | check formulas => runCheck formulas
  | references formula => runReferences formula
  | change configuration changed form json => .ofExcept do
    let configuration ← files.load Wire.configuration? configuration
    let ctx ← files.context form now
    return runChange ctx configuration changed json
  | overview sections form state? json => .ofExcept do
    let sections ← files.load (Wire.list Wire.formSection?) sections
    let ctx ← files.context form now
    let state? ← files.loadOr none (fun j => (Wire.flowState? j).map some) state?
    return runOverview ctx sections state? json

/-- The response to a command line that cannot be understood. -/
def usageResponse (e : UsageError) : Response := ⟨2, "", "error: " ++ e.message ++ "\n"⟩

/-- The response of the program to its arguments. -/
def respond (files : Files) (now : Instant) (line : List String) : Response :=
  match ofLine line with
  | .ok command => (command.run files now).response
  | .error e => usageResponse e

end Command

end FormRules
