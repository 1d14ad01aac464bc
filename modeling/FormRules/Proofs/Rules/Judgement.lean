import FormRules.Rules.Validation
import FormRules.Proofs.Formula.Emptiness
import FormRules.Proofs.Rules.Configuration

/-!
# Which violations are reported

A field is checked on a form that has the value to be judged under the field's id. So the violations are those of
its rules on this form (`validateField_fst`), and the report on all fields has one entry for each field with
violations (`validateAll_fst`). The value that it judges is the one stored under the id, or nothing. Where the
value of the field is stored under another identifier this is not the form as it is: the report can differ exactly
if some name reads through the id, or is the id, and stands for more than an empty text (`validateAll_faithful_iff`).
-/

namespace FormRules

open Formula (Context Outcome Referable Unnoticed)

/-- Results that no formula tells apart make the same violation. -/
theorem ValidationRule.violation?_congr {change : Value → Value} (hc : Unnoticed change)
    {result result' : Outcome Value} (h : result.map change = result'.map change) (rule : ValidationRule)
    (fieldId : String) :
    rule.violation? fieldId result = rule.violation? fieldId result' := by
  cases result with
  | error e =>
    cases result' with
    | error e' => cases h; rfl
    | ok v' => cases h
  | ok v =>
    cases result' with
    | error e' => cases h
    | ok v' =>
      have hv : v.toBool = v'.toBool := by rw [← hc.toBool v, Except.ok.inj h, hc.toBool]
      rw [ValidationRule.violation?, ValidationRule.violation?, hv]

namespace Registry

/-- The violations of a field's rules on a form as it is. -/
def violationsOn (r : Registry) (ctx : Context) (fieldId : String) : List Violation :=
  (r.rulesOf fieldId).filterMap fun rule => rule.violation? fieldId (Formula.resultOf ctx rule.formula)

/-- What is reported of a field with some violations: nothing if there are none. -/
def reportOf (fieldId : String) (violations : List Violation) : List (String × List Violation) :=
  if violations.isEmpty then [] else [(fieldId, violations)]

/-- The form with the value that is stored under a field's id, or nothing, stored there. -/
def judged (ctx : Context) (fieldId : String) : Context :=
  { ctx with data := ctx.data.insert fieldId (ctx.data[fieldId]?.getD .null) }

variable {r : Registry} {ctx : Context} {fieldId : String}

theorem checkRules_fst (engine : Formula.Engine) (rules : List ValidationRule) :
    (checkRules engine ctx fieldId rules).1 =
      rules.filterMap fun rule => rule.violation? fieldId (Formula.resultOf ctx rule.formula) := by
  induction rules generalizing engine with
  | nil => rfl
  | cons rule rest ih =>
    show (rule.violation? fieldId (engine.tryEvaluate ctx rule.formula).1).toList ++
      (checkRules (engine.tryEvaluate ctx rule.formula).2 ctx fieldId rest).1 = _
    rw [ih, Formula.tryEvaluate_fst, List.filterMap_cons]
    cases rule.violation? fieldId (Formula.resultOf ctx rule.formula) <;> rfl

/-- The violations by a value are those on the form that has it. -/
theorem validateField_fst (r : Registry) (ctx : Context) (fieldId : String) (value : Value) :
    (r.validateField ctx fieldId value).1 =
      r.violationsOn { ctx with data := ctx.data.insert fieldId value } fieldId :=
  checkRules_fst r.engine (r.rulesOf fieldId)

/-- The violations depend only on what the rules read of the form, up to a change that no formula notices. -/
theorem violationsOn_congr {change : Value → Value} (hc : Unnoticed change) {ctx ctx' : Context}
    (hnow : ctx.now = ctx'.now)
    (hvalue : ∀ rule ∈ r.rulesOf fieldId, ∀ name ∈ Formula.dependencies rule.formula,
      change (ctx.value name) = change (ctx'.value name)) :
    r.violationsOn ctx fieldId = r.violationsOn ctx' fieldId :=
  List.filterMap_congr fun rule hrule =>
    ValidationRule.violation?_congr hc (Formula.resultOf_map_congr hc (hvalue rule hrule) (.inl hnow)) rule fieldId

/-- Checking a value changes the engine alone. -/
theorem validateField_snd (r : Registry) (ctx : Context) (fieldId : String) (value : Value) :
    ∃ engine, (r.validateField ctx fieldId value).2 = { r with engine } :=
  ⟨_, rfl⟩

theorem validateEach_fst (ids : List String) : (r.validateEach ctx ids).1 =
    ids.flatMap fun id => reportOf id (r.violationsOn (judged ctx id) id) := by
  induction ids generalizing r with
  | nil => rfl
  | cons id rest ih =>
    obtain ⟨engine, hr⟩ := validateField_snd r ctx id (ctx.data[id]?.getD .null)
    have hcons : (r.validateEach ctx (id :: rest)).1 =
        if (r.validateField ctx id (ctx.data[id]?.getD .null)).1.isEmpty
        then ((r.validateField ctx id (ctx.data[id]?.getD .null)).2.validateEach ctx rest).1
        else (id, (r.validateField ctx id (ctx.data[id]?.getD .null)).1) ::
          ((r.validateField ctx id (ctx.data[id]?.getD .null)).2.validateEach ctx rest).1 := rfl
    have hjudged : (r.validateField ctx id (ctx.data[id]?.getD .null)).1 = r.violationsOn (judged ctx id) id :=
      validateField_fst r ctx id _
    rw [hcons, hr, ih, hjudged, List.flatMap_cons, reportOf]
    split <;> rfl

/-- A field without violations is left out, and each other one is reported once. -/
theorem validateAll_fst (r : Registry) (ctx : Context) (fieldId : String) :
    (r.validateAll ctx).1.filter (·.1 = fieldId) =
      reportOf fieldId (r.violationsOn (judged ctx fieldId) fieldId) := by
  have hreport : ∀ id violations, (reportOf id violations).filter (·.1 = fieldId) =
      if id = fieldId then reportOf id violations else [] := by
    intro id violations
    unfold reportOf
    split <;> simp [List.filter_cons]
  have hall : (r.validateAll ctx).1.filter (·.1 = fieldId) = r.rules.keys.flatMap fun id =>
      if id = fieldId then reportOf id (r.violationsOn (judged ctx id) id) else [] := by
    rw [validateAll, validateEach_fst, List.filter_flatMap]
    exact List.flatMap_congr fun id _ => hreport id _
  rw [hall]
  by_cases hkey : fieldId ∈ r.rules.keys
  · rw [flatMap_eq_of_mem nodup_keys hkey fun id _ hid => if_neg hid, if_pos rfl]
  · have hrules : r.rulesOf fieldId = [] := by
      rw [rulesOf, Std.ExtTreeMap.getElem?_eq_none (mt Std.ExtTreeMap.mem_keys.mpr hkey)]
      rfl
    have hnone : (r.rules.keys.flatMap fun id =>
        if id = fieldId then reportOf id (r.violationsOn (judged ctx id) id) else []) = [] :=
      List.flatMap_eq_nil_iff.mpr fun id hid => if_neg fun heq : id = fieldId => hkey (heq ▸ hid)
    rw [hnone, violationsOn, hrules]
    rfl

/-- A value that is stored under the id is judged where it stands. -/
theorem judged_eq_self (h : fieldId ∈ ctx.data) : judged ctx fieldId = ctx := by
  obtain ⟨value, hvalue⟩ := mem_iff_getElem?.mp h
  have hdata : ctx.data.insert fieldId value = ctx.data := by
    refine Std.ExtTreeMap.ext_getElem? fun key => ?_
    by_cases hkey : fieldId = key
    · rw [← hkey, Std.ExtTreeMap.getElem?_insert_self, hvalue]
    · exact getElem?_insert_of_ne hkey
  rw [judged, hvalue, Option.getD_some, hdata]

/-- Else nothing stands under the id, whichever way it is named. -/
theorem value_judged_eq_null {name : String} (hkey : fieldId ∉ ctx.data)
    (hname : name = fieldId ∨ FormData.ReadsThrough ctx.data ctx.fields fieldId name) :
    (judged ctx fieldId).value name = .null := by
  rw [judged, Std.ExtTreeMap.getElem?_eq_none hkey]
  rcases hname with rfl | hreads
  · rw [Context.value, FormData.lookup, Std.ExtTreeMap.getElem?_insert_self]
    rfl
  · exact FormData.lookup_insert_of_readsThrough hreads

/-- The rule that a field named in some way is empty. -/
def emptinessRule (fieldId name : String) : ValidationRule := ⟨fieldId, Formula.emptiness name, "", .error, 0⟩

theorem violationsOn_emptinessRule {name : String} (hname : Referable name) (ctx : Context) (fieldId : String) :
    (({} : Registry).registerRule (emptinessRule fieldId name)).violationsOn ctx fieldId =
      if (ctx.value name).toText = "" then [] else [⟨fieldId, "", .error, 0⟩] := by
  have hrules : (({} : Registry).registerRule (emptinessRule fieldId name)).rulesOf fieldId =
      [emptinessRule fieldId name] :=
    (rulesOf_registerRule _ _).trans (if_pos rfl)
  rw [violationsOn, hrules, List.filterMap_cons, emptinessRule, Formula.resultOf_emptiness hname,
    ValidationRule.violation?]
  by_cases htext : (ctx.value name).toText = "" <;> simp [htext, Value.toBool]

/-- Validation of the whole form judges a field by the form as it is, in every registry, exactly if a value is
stored under the id of the field, or no name that is the id or reads through it stands for more than an empty
text. The form goes through its fields in whichever order it has. -/
theorem validateAll_faithful_iff (ctx : Context) (fieldId : String) :
    (∀ r : Registry, r.Reachable →
      (r.validateAll ctx).1.filter (·.1 = fieldId) = reportOf fieldId (r.violationsOn ctx fieldId)) ↔
    fieldId ∈ ctx.data ∨ ∀ name, Referable name →
      name = fieldId ∨ FormData.ReadsThrough ctx.data ctx.fields fieldId name → (ctx.value name).toText = "" := by
  constructor
  · intro h
    refine or_iff_not_imp_left.mpr fun hkey name hname hreads => Classical.byContradiction fun htext => ?_
    -- the rule that the name stands for nothing is violated by the form, but not when nothing is judged
    have hreport := h _ (.registerRule .new (emptinessRule fieldId name))
    rw [validateAll_fst, violationsOn_emptinessRule hname, violationsOn_emptinessRule hname,
      value_judged_eq_null hkey hreads, if_neg htext] at hreport
    cases hreport
  · intro h r _
    rw [validateAll_fst]
    by_cases hkey : fieldId ∈ ctx.data
    · rw [judged_eq_self hkey]
    · have hempty := h.resolve_left hkey
      -- to judge nothing in place of an empty text makes no difference, and other names stand for what they did
      refine congrArg (reportOf fieldId) (violationsOn_congr Formula.unnoticed_bare rfl fun rule _ name hname => ?_)
      by_cases hreads : name = fieldId ∨ FormData.ReadsThrough ctx.data ctx.fields fieldId name
      · have htext := hempty name (Formula.referable_of_mem_dependencies hname) hreads
        rw [value_judged_eq_null hkey hreads, Value.bare_of_empty htext]
        rfl
      · rw [not_or] at hreads
        exact congrArg Value.bare (FormData.lookup_insert_of_not hreads.1 hreads.2)

/-- A form that has the value of the field `f1` under its title. -/
def keyedByTitle : Context where
  data := .ofList [("Price", Value.number (.ofNat 5))]
  fields := .ofList [("f1", FieldMeta.mk "f1" "Price" "" none false)]
  now := .ofMillis 0

/-- A rule holds of this form, and its violation is reported. -/
theorem not_faithful_by_title :
    let r := ({} : Registry).registerRule ⟨"f1", "[f1]>0", "Must be positive", .error, 0⟩
    r.Reachable ∧ Formula.resultOf keyedByTitle "[f1]>0" = .ok (.boolean true) ∧
      r.violationsOn keyedByTitle "f1" = [] ∧
      (r.validateAll keyedByTitle).1 = [("f1", [⟨"f1", "Must be positive", .error, 0⟩])] := by
  refine ⟨.registerRule .new _, ?_, ?_, ?_⟩ <;> decide +kernel

end Registry

end FormRules
