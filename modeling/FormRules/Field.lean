import Std.Data.ExtTreeMap
import FormRules.Value

/-!
# Fields and form data

A form knows its fields by id; a formula may name a field by its id, its title or its alternate name.
`FormData` holds the current values, each under one of these identifiers, and `lookup` finds the value that a
name stands for:

* the value stored under the name itself, if there is one;
* else the value of the field with that name, stored under its id, title or alternate name, in this order;
* else nothing.
-/

namespace FormRules

structure FieldMeta where
  id : String
  title : String
  fieldType : String := ""
  name? : Option String := none
  required : Bool := false
  deriving DecidableEq

namespace FieldMeta

/-- The names of a field, in the order in which its value is looked for. -/
def identifiers (field : FieldMeta) : List String := [field.id, field.title] ++ field.name?.toList

/-- Whether a name is one of the field's identifiers. -/
def isNamed (field : FieldMeta) (name : String) : Bool := field.identifiers.contains name

end FieldMeta

/-- The fields of a form, each under an id, in the order in which they are gone through. Nothing is said of this
order: a form does not choose it. -/
structure FieldMap where
  toList : List (String × FieldMeta)
  distinct : (toList.map Prod.fst).Nodup

/-- The values of a form. -/
abbrev FormData := Std.ExtTreeMap String Value compare

namespace FieldMap

instance : EmptyCollection FieldMap := ⟨⟨[], List.nodup_nil⟩⟩

instance : GetElem? FieldMap String FieldMeta fun fields id => (fields.toList.lookup id).isSome where
  getElem fields id h := (fields.toList.lookup id).get h
  getElem? fields id := fields.toList.lookup id

def values (fields : FieldMap) : List FieldMeta := fields.toList.map Prod.snd

/-- Stores a field under an id, behind all others. -/
def insert (fields : FieldMap) (id : String) (field : FieldMeta) : FieldMap where
  toList := fields.toList.filter (·.1 ≠ id) ++ [(id, field)]
  distinct := by
    rw [List.map_append, List.nodup_append]
    exact ⟨fields.distinct.sublist (List.filter_sublist.map Prod.fst), by simp, by simp⟩

def ofList (entries : List (String × FieldMeta)) : FieldMap :=
  entries.foldl (fun fields (id, field) => fields.insert id field) ∅

/-- The field that a name stands for: the one stored under the name if the name is one of its identifiers,
else the first that has the identifier. Where several have it, the order of the fields decides. -/
def named? (fields : FieldMap) (name : String) : Option FieldMeta :=
  (fields[name]?.filter (·.isNamed name)).or (fields.values.find? (·.isNamed name))

end FieldMap

namespace FormData

/-- The value stored under one of the field's identifiers. -/
def ofField? (data : FormData) (field : FieldMeta) : Option Value := field.identifiers.findSome? (data[·]?)

/-- The value that a name stands for. -/
def lookup (data : FormData) (fields : FieldMap) (name : String) : Value :=
  match data[name]? with
  | some value => value
  | none => ((FieldMap.named? fields name).bind (ofField? data)).getD .null

end FormData

end FormRules
