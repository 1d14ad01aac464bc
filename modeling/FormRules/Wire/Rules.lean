import FormRules.Json.Reader
import FormRules.Rules.Registry
import FormRules.Wire.Form

/-!
# Saved registries

A registry is saved as the list of its calculated fields and the list of its rules. `Configuration.toText`
writes it with indentation, and `Configuration.ofText?` reads it; missing lists and settings have their
defaults.
-/

namespace FormRules

namespace Wire

def updateModes : List (String × UpdateMode) :=
  [("realtime", .realtime), ("onblur", .onBlur), ("onsubmit", .onSubmit)]

def severities : List (String × Severity) := [("error", .error), ("warning", .warning), ("info", .info)]

def calculation (field : CalculationField) : Json :=
  .record [("fieldId", Json.text field.fieldId), ("formula", Json.text field.formula),
    ("dependencies", Json.list .text field.dependencies), ("updateMode", nameOf updateModes field.updateMode),
    ("format", format field.format)]

def calculation? : Decoder CalculationField := fun j => do
  let [fieldId, formula, dependencies, mode, format] ← structure?
      [["fieldId"], ["formula"], ["dependencies"], ["updateMode"], ["format"]] j
    | none
  return { fieldId := ← required text fieldId, formula := ← required text formula
           dependencies := ← orElse [] (list text) dependencies
           updateMode := ← orElse .realtime (oneOf updateModes) mode, format := ← orElse {} format? format }

def rule (r : ValidationRule) : Json :=
  .record [("fieldId", Json.text r.fieldId), ("formula", Json.text r.formula),
    ("message", Json.text r.message), ("severity", nameOf severities r.severity),
    ("priority", Json.int r.priority.toInt)]

def rule? : Decoder ValidationRule := fun j => do
  let [fieldId, formula, message, severity, priority] ← structure?
      [["fieldId"], ["formula"], ["message"], ["severity"], ["priority"]] j
    | none
  return { fieldId := ← required text fieldId, formula := ← required text formula
           message := ← required text message
           severity := ← orElse .error (oneOf severities) severity, priority := ← orElse 0 int32? priority }

def violation (v : Violation) : Json :=
  .record [("fieldId", Json.text v.fieldId), ("message", Json.text v.message),
    ("severity", nameOf severities v.severity), ("priority", Json.int v.priority.toInt)]

def violation? : Decoder Violation := fun j => do
  let [fieldId, message, severity, priority] ← structure?
      [["fieldId"], ["message"], ["severity"], ["priority"]] j
    | none
  return ⟨← required text fieldId, ← required text message, ← required (oneOf severities) severity,
    ← required int32? priority⟩

def calculatedValue (result : CalculatedValue) : Json :=
  .record [("fieldId", Json.text result.fieldId), ("value", value result.value),
    ("display", Json.text result.display)]

def configuration (config : Configuration) : Json :=
  .record [("calculations", Json.list calculation config.calculations),
    ("validations", Json.list rule config.validations)]

def configuration? : Decoder Configuration := fun j => do
  let [calculations, validations] ← structure? [["calculations"], ["validations"]] j
    | none
  return ⟨← orElse [] (list calculation?) calculations, ← orElse [] (list rule?) validations⟩

end Wire

/-- The text of a saved configuration. -/
def Configuration.toText (config : Configuration) : String := (Wire.configuration config).pretty

/-- Reads a saved configuration. -/
def Configuration.ofText? (s : String) : Option Configuration := (Json.read? s).bind Wire.configuration?

/-- The text that a registry is saved as. -/
def Registry.exportText (r : Registry) : String := r.exported.toText

/-- Replaces the contents of a registry by saved ones, if they can be read. -/
def Registry.importText? (r : Registry) (s : String) : Option Registry :=
  (Configuration.ofText? s).map r.imported

end FormRules
