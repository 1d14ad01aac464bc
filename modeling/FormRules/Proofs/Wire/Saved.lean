import FormRules.Proofs.Json.RoundTrip
import FormRules.Wire.Flow
import FormRules.Wire.Rules

/-!
# Saved data is read back

A writer and a decoder are faithful if what is written is a plain document and is decoded to what was written.
The entries of a record are found under their keys, those without a value as missing ones
(`structure?_record`), and from this every saved structure is read back: formats, calculated fields, rules and
configurations (`faithful_configuration`), and states of flows (`faithful_flowState`).
-/

namespace FormRules.Wire

open Json (Plain)

variable {α : Type} {write : α → Json} {read : Decoder α}

/-- What is written is a plain document, which is read back. -/
structure Faithful (write : α → Json) (read : Decoder α) : Prop where
  plain : ∀ a, (write a).Plain
  read_write : ∀ a, read (write a) = some a

theorem faithful_text : Faithful Json.text text := ⟨Plain.text, fun _ => rfl⟩

theorem faithful_bool : Faithful Json.bool bool := ⟨Plain.bool, fun _ => rfl⟩

theorem Faithful.list (h : Faithful write read) : Faithful (Json.list write) (list read) where
  plain items := by
    refine Plain.array fun j hj => ?_
    obtain ⟨a, -, rfl⟩ := List.mem_map.mp hj
    exact h.plain a
  read_write items := by
    show (items.map write).mapM read = some items
    induction items with
    | nil => rfl
    | cons a items ih =>
      rw [List.map_cons, List.mapM_cons, h.read_write, ih]
      rfl

/-! ### Records -/

variable {entries : List (String × Option Json)}

/-- The entries of a record that have a value. -/
def valued (entries : List (String × Option Json)) : List (Option String × Json) :=
  entries.filterMap fun (key, value) => value.map (some key, ·)

theorem mem_valued {written : Option String × Json} (h : written ∈ valued entries) :
    ∃ entry ∈ entries, written.1 = some entry.1 ∧ entry.2 = some written.2 := by
  obtain ⟨⟨key, value⟩, hentry, hsome⟩ := List.mem_filterMap.mp h
  obtain ⟨j, rfl, rfl⟩ := Option.map_eq_some_iff.mp hsome
  exact ⟨_, hentry, rfl, rfl⟩

theorem plain_record (h : ∀ entry ∈ entries, ∀ j, entry.2 = some j → j.Plain) :
    (Json.record entries).Plain := by
  refine Plain.object (fun written hwritten => ?_) fun written hwritten => ?_
  · obtain ⟨entry, -, hkey, -⟩ := mem_valued hwritten
    rw [hkey]
    rfl
  · obtain ⟨entry, hmem, -, hvalue⟩ := mem_valued hwritten
    exact h entry hmem _ hvalue

theorem filter_valued_of_not_mem {key : String} (h : key ∉ entries.map (·.1)) :
    (valued entries).filter (fun (k, _) => k.any [key].contains) = [] := by
  rw [List.filter_eq_nil_iff]
  rintro ⟨k, j⟩ hwritten hkey
  obtain ⟨entry, hentry, rfl, -⟩ := mem_valued hwritten
  have heq : entry.1 = key := by simpa using hkey
  exact h (heq ▸ List.mem_map_of_mem hentry)

/-- Under a key of a record its value is found. -/
theorem member?_record (hkeys : (entries.map (·.1)).Nodup) {key : String} {value : Option Json}
    (hentry : (key, value) ∈ entries) : member? (valued entries) [key] = some value := by
  obtain ⟨before, after, rfl⟩ := List.append_of_mem hentry
  rw [List.map_append, List.map_cons, List.nodup_append, List.nodup_cons] at hkeys
  obtain ⟨-, ⟨hafter, -⟩, hbefore⟩ := hkeys
  have hnot : key ∉ before.map (·.1) := fun hmem => hbefore _ hmem _ List.mem_cons_self rfl
  have hfilter : (valued (before ++ (key, value) :: after)).filter (fun (k, _) => k.any [key].contains) =
      (value.map (some key, ·)).toList := by
    rw [valued, List.filterMap_append, List.filter_append, ← valued, filter_valued_of_not_mem hnot,
      List.nil_append, List.filterMap_cons]
    cases value with
    | none => exact filter_valued_of_not_mem hafter
    | some j =>
      show List.filter _ ((some key, j) :: valued after) = _
      rw [List.filter_cons_of_pos (by simp), filter_valued_of_not_mem hafter]
      rfl
  rw [member?, hfilter]
  cases value <;> rfl

/-- The entries of a record are found under their keys. -/
theorem structure?_record (entries : List (String × Option Json)) (hkeys : (entries.map (·.1)).Nodup) :
    structure? (entries.map fun entry => [entry.1]) (Json.record entries) = some (entries.map (·.2)) := by
  have hall : (valued entries).all (·.1.isSome) = true := by
    rw [List.all_eq_true]
    intro written hwritten
    obtain ⟨entry, -, hkey, -⟩ := mem_valued hwritten
    rw [hkey]
    rfl
  have hfound : ∀ found ⊆ entries,
      (found.map fun entry => [entry.1]).mapM (member? (valued entries)) = some (found.map (·.2)) := by
    intro found hfound
    induction found with
    | nil => rfl
    | cons entry found ih =>
      obtain ⟨hentry, hrest⟩ := List.cons_subset.mp hfound
      rw [List.map_cons, List.mapM_cons, member?_record hkeys hentry, ih hrest]
      rfl
  show (if (valued entries).all (·.1.isSome) then _ else none) = _
  rw [if_pos hall]
  exact hfound entries (List.Subset.refl entries)

/-! ### Entries -/

theorem Faithful.required_eq (h : Faithful write read) (a : α) : required read (some (write a)) = some a :=
  h.read_write a

theorem Faithful.orElse_eq (h : Faithful write read) (default a : α) :
    orElse default read (some (write a)) = some a :=
  h.read_write a

/-- An entry without a value is left out, and a missing entry is one without a value. -/
theorem Faithful.optional_eq (h : Faithful write read) (hnull : ∀ a, write a ≠ .null) (value? : Option α) :
    orElse none (optional read) (value?.map write) = some value? := by
  cases value? with
  | none => rfl
  | some a =>
    show optional read (write a) = some (some a)
    unfold optional
    split
    · next heq => exact absurd heq (hnull a)
    · rw [h.read_write, Option.map_some]

theorem faithful_uint32 : Faithful (fun n : UInt32 => Json.int n.toNat) uint32? where
  plain _ := Plain.int _
  read_write n := by
    have hlt := n.toNat_lt
    rw [uint32?, Json.int?_int (by omega) (by simp [UInt32.size]; omega), Option.map_some]
    simp

theorem faithful_int32 : Faithful (fun n : Int32 => Json.int n.toInt) int32? where
  plain _ := Plain.int _
  read_write n := by
    have hmax : Int32.maxValue.toInt = 2 ^ 31 - 1 := rfl
    have hlt := n.toInt_lt
    rw [int32?, Json.int?_int n.minValue_le_toInt (by omega), Option.map_some, Int32.ofInt_toInt]

theorem faithful_formatType : Faithful (nameOf formatTypes) (oneOf formatTypes) where
  plain _ := Plain.text _
  read_write formatType := by cases formatType <;> rfl

theorem faithful_updateMode : Faithful (nameOf updateModes) (oneOf updateModes) where
  plain _ := Plain.text _
  read_write mode := by cases mode <;> rfl

theorem faithful_severity : Faithful (nameOf severities) (oneOf severities) where
  plain _ := Plain.text _
  read_write severity := by cases severity <;> rfl

/-! ### Structures -/

theorem structure?_format (options : FormatOptions) :
    structure? [["formatType"], ["precision"], ["prefix"], ["suffix"], ["thousandsSeparator"]] (format options) =
      some [some (nameOf formatTypes options.formatType),
        options.precision?.map fun n : UInt32 => Json.int n.toNat, options.leading?.map Json.text,
        options.trailing?.map Json.text, some (.bool options.thousands)] :=
  structure?_record [(_, _), (_, _), (_, _), (_, _), (_, _)] (by simp)

theorem faithful_format : Faithful format format? where
  plain options := by
    refine plain_record ?_
    simp [faithful_formatType.plain, Plain.bool, Plain.text, Plain.int]
  read_write options := by
    simp only [format?, structure?_format, faithful_formatType.orElse_eq, faithful_bool.orElse_eq,
      faithful_uint32.optional_eq fun _ => nofun, faithful_text.optional_eq fun _ => nofun, Option.bind_eq_bind,
      Option.bind_some]
    rfl

theorem structure?_calculation (field : CalculationField) :
    structure? [["fieldId"], ["formula"], ["dependencies"], ["updateMode"], ["format"]] (calculation field) =
      some [some (Json.text field.fieldId), some (Json.text field.formula),
        some (Json.list Json.text field.dependencies), some (nameOf updateModes field.updateMode),
        some (format field.format)] :=
  structure?_record [(_, _), (_, _), (_, _), (_, _), (_, _)] (by simp)

theorem faithful_calculation : Faithful calculation calculation? where
  plain field := by
    refine plain_record ?_
    simp [faithful_text.list.plain, faithful_updateMode.plain, faithful_format.plain, Plain.text]
  read_write field := by
    simp only [calculation?, structure?_calculation, faithful_text.required_eq, faithful_text.list.orElse_eq,
      faithful_updateMode.orElse_eq, faithful_format.orElse_eq, Option.bind_eq_bind, Option.bind_some]
    rfl

theorem structure?_rule (r : ValidationRule) :
    structure? [["fieldId"], ["formula"], ["message"], ["severity"], ["priority"]] (rule r) =
      some [some (Json.text r.fieldId), some (Json.text r.formula), some (Json.text r.message),
        some (nameOf severities r.severity), some (Json.int r.priority.toInt)] :=
  structure?_record [(_, _), (_, _), (_, _), (_, _), (_, _)] (by simp)

theorem faithful_rule : Faithful rule rule? where
  plain r := by
    refine plain_record ?_
    simp [faithful_severity.plain, Plain.text, Plain.int]
  read_write r := by
    simp only [rule?, structure?_rule, faithful_text.required_eq, faithful_severity.orElse_eq,
      faithful_int32.orElse_eq, Option.bind_eq_bind, Option.bind_some]
    rfl

theorem structure?_configuration (config : Configuration) :
    structure? [["calculations"], ["validations"]] (configuration config) =
      some [some (Json.list calculation config.calculations), some (Json.list rule config.validations)] :=
  structure?_record [(_, _), (_, _)] (by simp)

theorem faithful_configuration : Faithful configuration configuration? where
  plain config := by
    refine plain_record ?_
    simp [faithful_calculation.list.plain, faithful_rule.list.plain]
  read_write config := by
    simp only [configuration?, structure?_configuration, faithful_calculation.list.orElse_eq,
      faithful_rule.list.orElse_eq, Option.bind_eq_bind, Option.bind_some]
    rfl

theorem faithful_textOrNull : Faithful textOrNull (optional text) where
  plain s := by
    cases s with
    | none => exact Plain.null
    | some s => exact Plain.text s
  read_write s := by cases s <;> rfl

theorem structure?_flowState (state : FlowState) :
    structure? [["currentSectionId"], ["completedSectionIds"], ["visitedSectionIds"], ["navigationHistory"]]
        (flowState state) =
      some [some (textOrNull state.current?), some (Json.list Json.text state.completed.toList),
        some (Json.list Json.text state.visited.toList), some (Json.list Json.text state.history.reverse)] :=
  structure?_record [(_, _), (_, _), (_, _), (_, _)] (by simp)

theorem ofList_toList (ids : Std.ExtTreeSet String compare) : .ofList ids.toList = ids := by
  refine Std.ExtTreeSet.ext_mem fun id => ?_
  simp

theorem faithful_flowState : Faithful flowState flowState? where
  plain state := by
    refine plain_record ?_
    simp [faithful_textOrNull.plain, faithful_text.list.plain]
  read_write state := by
    simp only [flowState?, structure?_flowState, faithful_textOrNull.orElse_eq, faithful_text.list.orElse_eq,
      Option.bind_eq_bind, Option.bind_some, ofList_toList, List.reverse_reverse]
    rfl

end FormRules.Wire
