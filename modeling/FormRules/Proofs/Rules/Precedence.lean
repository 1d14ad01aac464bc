import FormRules.Proofs.Rules.Judgement

/-!
# One more rule

A rule that is added to those of a field comes behind the ones whose priority is not greater (`rulesOf_registerRule_eq`),
so that any rules of a field, added one after the other, are sorted by their priorities and equal ones by the time
of registration (`rulesOf_foldl_registerRule_eq`). Each rule is judged for itself. So the violations of the other
rules stay as they were, and the one of the new rule, if there is one, stands between those of the rules in front of
it and behind it (`registerRule_exact`), whatever priority the violation itself has.
-/

namespace FormRules.Registry

open Formula (Context)

/-- The violations of some rules of a field on a form. -/
def violationsOf (ctx : Context) (fieldId : String) (rules : List ValidationRule) : List Violation :=
  rules.filterMap fun rule => rule.violation? fieldId (Formula.resultOf ctx rule.formula)

variable {r : Registry} {ctx : Context} {fieldId : String} {rule : ValidationRule}

theorem violationsOn_eq (r : Registry) (ctx : Context) (fieldId : String) :
    r.violationsOn ctx fieldId = violationsOf ctx fieldId (r.rulesOf fieldId) :=
  rfl

theorem violationsOf_append (front back : List ValidationRule) :
    violationsOf ctx fieldId (front ++ back) = violationsOf ctx fieldId front ++ violationsOf ctx fieldId back :=
  List.filterMap_append

/-- The new rule comes behind those whose priority is not greater, and in front of the others. -/
theorem rulesOf_registerRule_eq (hr : r.Reachable) (rule : ValidationRule) :
    (r.registerRule rule).rulesOf rule.fieldId =
      (r.rulesOf rule.fieldId).filter (fun other => other.priority ≤ rule.priority) ++
        rule :: (r.rulesOf rule.fieldId).filter fun other => rule.priority < other.priority := by
  rw [rulesOf_registerRule, if_pos rfl, ValidationRule.insertInto_eq_orderedInsert]
  exact orderedInsert_eq_filter (hr.tidy.sorted_rulesOf rule.fieldId) rule

/-- The rules of a field are sorted by their priorities, and equal ones by the time of registration. -/
theorem rulesOf_foldl_registerRule_eq (hr : r.Reachable) (added : List ValidationRule) (fieldId : String) :
    (added.foldl registerRule r).rulesOf fieldId =
      (r.rulesOf fieldId ++ added.filter (·.fieldId = fieldId)).mergeSort fun a b => a.priority ≤ b.priority := by
  rw [rulesOf_foldl_registerRule]
  exact (ValidationRule.stableSort_foldl (hr.tidy.sorted_rulesOf fieldId) _).eq_mergeSort

/-- The rule that was added last is the last one with its priority. -/
theorem latestRule?_registerRule (hr : r.Reachable) (rule : ValidationRule) :
    (r.registerRule rule).latestRule? rule.fieldId rule.priority = some rule := by
  have hbehind : ((r.rulesOf rule.fieldId).filter fun other => rule.priority < other.priority).reverse.find?
      (·.priority = rule.priority) = none := by
    rw [List.find?_eq_none]
    intro other hother
    simp only [List.mem_reverse, List.mem_filter, decide_eq_true_eq] at hother ⊢
    exact (Int32.ne_of_lt hother.2).symm
  rw [latestRule?, rulesOf_registerRule_eq hr, List.reverse_append, List.reverse_cons, List.append_assoc,
    List.find?_append, hbehind]
  simp

/-- The violations of a field's rules are those of the rules up to a priority and those of the rules above it. -/
theorem violationsOn_eq_append (hr : r.Reachable) (ctx : Context) (fieldId : String) (priority : Int32) :
    r.violationsOn ctx fieldId =
      violationsOf ctx fieldId ((r.rulesOf fieldId).filter fun other => other.priority ≤ priority) ++
        violationsOf ctx fieldId ((r.rulesOf fieldId).filter fun other => priority < other.priority) := by
  rw [← violationsOf_append, filter_append_filter (hr.tidy.sorted_rulesOf fieldId), violationsOn_eq]

/-- The new rule adds its own violation, if there is one, between these. -/
theorem violationsOn_registerRule (hr : r.Reachable) (rule : ValidationRule) (ctx : Context) :
    (r.registerRule rule).violationsOn ctx rule.fieldId =
      violationsOf ctx rule.fieldId ((r.rulesOf rule.fieldId).filter fun other => other.priority ≤ rule.priority) ++
        ((rule.violation? rule.fieldId (Formula.resultOf ctx rule.formula)).toList ++
          violationsOf ctx rule.fieldId
            ((r.rulesOf rule.fieldId).filter fun other => rule.priority < other.priority)) := by
  rw [violationsOn_eq, rulesOf_registerRule_eq hr, violationsOf_append]
  congr 1
  rw [violationsOf, List.filterMap_cons]
  cases rule.violation? rule.fieldId (Formula.resultOf ctx rule.formula) <;> rfl

/-- A rule that is added to a field is the one that is returned, the rules of the field stay sorted by their
priorities, equal ones by the time of registration, and the rules and violations of other fields stay as they are. A
value of the field then makes the violations that it made before, in their order, and if the new rule does not hold of
the form with the value in place, or fails there, one violation more: behind those of the rules whose priority is not
greater than that of the new rule, and in front of the others. Where the formula fails, its severity is that of an
error and its priority is 999. -/
theorem registerRule_exact (hr : r.Reachable) (rule : ValidationRule) (ctx : Context) (value : Value) :
    let after := r.registerRule rule
    let judged := { ctx with data := ctx.data.insert rule.fieldId value }
    let upTo := violationsOf judged rule.fieldId
      ((r.rulesOf rule.fieldId).filter fun other => other.priority ≤ rule.priority)
    let above := violationsOf judged rule.fieldId
      ((r.rulesOf rule.fieldId).filter fun other => rule.priority < other.priority)
    let found := (after.validateField ctx rule.fieldId value).1
    after.latestRule? rule.fieldId rule.priority = some rule ∧
      (after.rulesOf rule.fieldId).Pairwise (fun a b => a.priority ≤ b.priority) ∧
      (∀ added : List ValidationRule, (added.foldl registerRule r).rulesOf rule.fieldId =
        (r.rulesOf rule.fieldId ++ added.filter (·.fieldId = rule.fieldId)).mergeSort
          fun a b => a.priority ≤ b.priority) ∧
      (∀ other, other ≠ rule.fieldId → after.rulesOf other = r.rulesOf other ∧
        ∀ value, (after.validateField ctx other value).1 = (r.validateField ctx other value).1) ∧
      (r.validateField ctx rule.fieldId value).1 = upTo ++ above ∧
      (∀ result, Formula.resultOf judged rule.formula = .ok result → result.toBool = true →
        found = upTo ++ above) ∧
      (∀ result, Formula.resultOf judged rule.formula = .ok result → result.toBool = false →
        found = upTo ++ ⟨rule.fieldId, rule.message, rule.severity, rule.priority⟩ :: above) ∧
      ∀ e, Formula.resultOf judged rule.formula = .error e →
        found = upTo ++ ⟨rule.fieldId, "Validation rule could not be evaluated: " ++ e.message, .error, 999⟩ :: above := by
  intro after judged upTo above found
  have hfound : found = upTo ++ ((rule.violation? rule.fieldId (Formula.resultOf judged rule.formula)).toList ++ above) :=
    (validateField_fst after ctx rule.fieldId value).trans (violationsOn_registerRule hr rule judged)
  refine ⟨latestRule?_registerRule hr rule, (hr.registerRule rule).tidy.sorted_rulesOf rule.fieldId,
    fun added => rulesOf_foldl_registerRule_eq hr added rule.fieldId, fun other hother => ?_, ?_, ?_, ?_, ?_⟩
  · have hrules : after.rulesOf other = r.rulesOf other :=
      (rulesOf_registerRule rule other).trans (if_neg hother.symm)
    refine ⟨hrules, fun value => ?_⟩
    rw [validateField_fst, validateField_fst, violationsOn_eq, violationsOn_eq, hrules]
  · rw [validateField_fst, violationsOn_eq_append hr _ _ rule.priority]
  · intro result hresult htrue
    rw [hfound, hresult, ValidationRule.violation?, if_pos htrue]
    rfl
  · intro result hresult hfalse
    rw [hfound, hresult, ValidationRule.violation?, if_neg (by simp [hfalse])]
    rfl
  · intro e herror
    rw [hfound, herror]
    rfl

/-- A field with rules of the least, a middle and the greatest priority. -/
def limits : Registry :=
  ({} : Registry)
    |>.registerRule ⟨"Total", "[Total]<100", "Too high", .error, 2147483647⟩
    |>.registerRule ⟨"Total", "[Total]>0", "Nothing", .warning, 5⟩
    |>.registerRule ⟨"Net", "[Net]>0", "Nothing left", .error, 5⟩
    |>.registerRule ⟨"Total", "[Net]<[Total]", "No tax", .info, -2147483648⟩
    |>.registerRule ⟨"Total", "[Total]<50", "High", .info, 5⟩

/-- A form on which nothing is left of the total. -/
def exhausted : Context where
  data := .ofList [("Net", Value.number (.ofNat 0))]
  fields := ∅
  now := .ofMillis 0

theorem registerRule_exact_limits :
    let rule : ValidationRule := ⟨"Total", "1/[Net]>0", "", .warning, 5⟩
    limits.Reachable ∧ (limits.registerRule rule).latestRule? "Total" 5 = some rule ∧
      (limits.validateField exhausted "Total" (.number (.ofNat 200))).1 =
        [⟨"Total", "High", .info, 5⟩, ⟨"Total", "Too high", .error, 2147483647⟩] ∧
      ((limits.registerRule rule).validateField exhausted "Total" (.number (.ofNat 200))).1 =
        [⟨"Total", "High", .info, 5⟩,
          ⟨"Total", "Validation rule could not be evaluated: Evaluation error: Division by zero", .error, 999⟩,
          ⟨"Total", "Too high", .error, 2147483647⟩] := by
  intro rule
  have hr : limits.Reachable := by
    unfold limits
    exact Reachable.new.registerRule _
      |>.registerRule _
      |>.registerRule _
      |>.registerRule _
      |>.registerRule _
  obtain ⟨hlatest, -, -, -, hbefore, -, -, hfails⟩ :=
    registerRule_exact hr rule exhausted (.number (.ofNat 200))
  refine ⟨hr, hlatest, hbefore.trans ?_, (hfails (.failed .divisionByZero) ?_).trans ?_⟩ <;> decide +kernel

end FormRules.Registry
