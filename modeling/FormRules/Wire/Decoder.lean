import FormRules.Json.Number

/-!
# Decoding documents

The parts that decoders of structures are made of. A structure is an object whose entries may stand in any
order, with other entries among them; an entry may not be repeated, under another of its names neither. An
array stands for the entries in their order.
-/

namespace FormRules.Wire

/-- Reads something of a document. -/
abbrev Decoder (α : Type) := Json → Option α

def bool : Decoder Bool
  | .bool b => some b
  | _ => none

def text : Decoder String
  | .string s => s
  | _ => none

def list {α : Type} (decode : Decoder α) : Decoder (List α)
  | .array items => items.mapM decode
  | _ => none

/-- Reads a value that may be missing, which `null` stands for. -/
def optional {α : Type} (decode : Decoder α) : Decoder (Option α)
  | .null => some none
  | j => (decode j).map some

/-- Reads one of some values by its name; an object with the name as its only key and `null` under it stands
for the name. -/
def oneOf {α : Type} (names : List (String × α)) : Decoder α
  | .string s => s.bind fun name => names.lookup name
  | .object [(key, .null)] => key.bind fun name => names.lookup name
  | _ => none

/-- The value under one of some names in an object; at most one entry has one. -/
def member? (entries : List (Option String × Json)) (names : List String) : Option (Option Json) :=
  match entries.filter fun (key, _) => key.any names.contains with
  | [] => some none
  | [(_, value)] => some (some value)
  | _ => none

/-- The entries of a structure, each given by its names. -/
def structure? (names : List (List String)) : Json → Option (List (Option Json))
  | .object entries => if entries.all (·.1.isSome) then names.mapM (member? entries) else none
  | .array items =>
    if items.length ≤ names.length then
      some (items.map some ++ List.replicate (names.length - items.length) none)
    else none
  | _ => none

/-- Reads an entry that must be there. -/
def required {α : Type} (decode : Decoder α) (entry : Option Json) : Option α := entry.bind decode

/-- Reads an entry that may be missing. -/
def orElse {α : Type} (default : α) (decode : Decoder α) : Option Json → Option α
  | none => some default
  | some j => decode j

/-- Reads the values of an object, of which the last one under a key counts. -/
def entries {α : Type} (decode : Decoder α) : Decoder (List (String × α))
  | .object entries => entries.mapM fun (key, value) => do return (← key, ← decode value)
  | _ => none

end FormRules.Wire
