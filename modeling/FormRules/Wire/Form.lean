import FormRules.Display
import FormRules.Field
import FormRules.Wire.Decoder

/-!
# Saved values, fields and formats

A value is saved as what it is: `null`, a truth value, a number or a string. A number that is not finite is
saved as `null`. Entries that have no value are left out.
-/

namespace FormRules.Wire

def number (x : Binary64) : Json := (x.exchange?.map .number).getD .null

def value : Value → Json
  | .null => .null
  | .boolean b => .bool b
  | .number x => number x
  | .text s => .text s

def value? : Decoder Value
  | .null => some .null
  | .bool b => some (.boolean b)
  | .number s => (Json.floatNumber? s).map .number
  | .string s => s.map .text
  | _ => none

def uint32? (j : Json) : Option UInt32 := (j.int? 0 (UInt32.size - 1)).map fun n => .ofNat n.toNat

def uint64? (j : Json) : Option UInt64 := (j.int? 0 (UInt64.size - 1)).map fun n => .ofNat n.toNat

def int32? (j : Json) : Option Int32 := (j.int? Int32.minValue.toInt Int32.maxValue.toInt).map .ofInt

def fieldMeta (field : FieldMeta) : Json :=
  .record [("id", Json.text field.id), ("title", Json.text field.title), ("type", Json.text field.fieldType),
    ("name", field.name?.map .text), ("required", some (.bool field.required))]

def fieldMeta? : Decoder FieldMeta := fun j => do
  let [id, title, fieldType, name, needed] ← structure?
      [["id"], ["title"], ["type"], ["name"], ["required"]] j
    | none
  return { id := ← required text id, title := ← required text title, fieldType := ← orElse "" text fieldType
           name? := ← orElse none (optional text) name, required := ← orElse false bool needed }

def formatTypes : List (String × FormatType) :=
  [("number", .number), ("currency", .currency), ("percentage", .percentage), ("date", .date),
   ("auto", .auto)]

/-- The name of a value in a list of names. -/
def nameOf {α : Type} [BEq α] (names : List (String × α)) (a : α) : Json :=
  .text (((names.find? (·.2 == a)).map (·.1)).getD "")

def format (options : FormatOptions) : Json :=
  .record [("formatType", nameOf formatTypes options.formatType),
    ("precision", options.precision?.map fun n => .int n.toNat), ("prefix", options.leading?.map .text),
    ("suffix", options.trailing?.map .text), ("thousandsSeparator", some (.bool options.thousands))]

def format? : Decoder FormatOptions := fun j => do
  let [formatType, precision, leading, trailing, thousands] ← structure?
      [["formatType"], ["precision"], ["prefix"], ["suffix"], ["thousandsSeparator"]] j
    | none
  return { formatType := ← orElse .auto (oneOf formatTypes) formatType
           precision? := ← orElse none (optional uint32?) precision
           leading? := ← orElse none (optional text) leading
           trailing? := ← orElse none (optional text) trailing
           thousands := ← orElse false bool thousands }

/-- Form data of a document with the values by their names. -/
def formData? : Decoder FormData := fun j => do
  return (← entries value? j).foldl (fun data (key, value) => data.insert key value) ∅

/-- The fields of a document with the fields by their ids, in the order of the document. -/
def fieldMap? : Decoder FieldMap := fun j => (entries fieldMeta? j).map .ofList

end FormRules.Wire
