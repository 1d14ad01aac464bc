import FormRules.Formula.Eval

/-!
# Facts about evaluation

Evaluation has no syntax errors (`isSyntax_of_evaluate`). The result of a call depends on the results of its
arguments alone (`evaluate_call_congr`). A call of an expandable function evaluates all its arguments, and its
value is a number or a text.
-/

namespace FormRules.Formula

def Error.isSyntax : Error → Bool
  | malformed _ _ => true
  | _ => false

/-- A value could not be computed. -/
def Error.isFailure : Error → Bool
  | failed _ => true
  | _ => false

variable {ctx : Context}

/-- No error of the outcome is a syntax error. -/
def NoSyntax {α : Type} (outcome : Outcome α) : Prop := ∀ e, outcome = .error e → e.isSyntax = false

theorem noSyntax_ok {α : Type} (a : α) : NoSyntax (.ok a : Outcome α) := nofun

theorem noSyntax_error {α : Type} {e : Error} (h : e.isSyntax = false) : NoSyntax (.error e : Outcome α) := by
  intro e' he
  cases he
  exact h

theorem NoSyntax.bind {α β : Type} {outcome : Outcome α} {next : α → Outcome β} (h : NoSyntax outcome)
    (hnext : ∀ a, NoSyntax (next a)) : NoSyntax (outcome >>= next) := by
  cases outcome with
  | ok a => exact hnext a
  | error e => exact noSyntax_error (h e rfl)

theorem checkArity_cases (f : Builtin) (actual : Nat) :
    f.checkArity actual = .ok () ∨ ∃ bound, f.checkArity actual = .error (.argumentCount f.name bound actual) := by
  unfold Builtin.checkArity
  split
  · exact .inr ⟨_, rfl⟩
  · split
    · split
      · exact .inr ⟨_, rfl⟩
      · exact .inl rfl
    · exact .inl rfl

theorem noSyntax_checkArity (f : Builtin) (actual : Nat) : NoSyntax (f.checkArity actual) := by
  rcases checkArity_cases f actual with hok | ⟨bound, herror⟩
  · rw [hok]
    exact noSyntax_ok ()
  · rw [herror]
    exact noSyntax_error rfl

theorem noSyntax_timestamp (v : Value) : NoSyntax (timestamp v) := by
  unfold timestamp
  split
  · exact noSyntax_ok _
  · dsimp only
    split
    · exact noSyntax_ok _
    · exact noSyntax_error rfl

theorem noSyntax_dateDifference (v w : Value) (unit : Nat) : NoSyntax (dateDifference v w unit) :=
  (noSyntax_timestamp v).bind fun _ => (noSyntax_timestamp w).bind fun _ => noSyntax_ok _

theorem noSyntax_apply (f : Builtin) (now : Instant) (args : List Value) : NoSyntax (f.apply now args) := by
  unfold Builtin.apply
  cases hf : f.compute? now args with
  | none => exact noSyntax_error rfl
  | some outcome =>
    show NoSyntax outcome
    unfold Builtin.compute? at hf
    split at hf <;> cases hf
    all_goals first | exact noSyntax_ok _ | exact noSyntax_dateDifference _ _ _

theorem noSyntax_arithmetic (op : ArithmeticOp) (l r : Binary64) : NoSyntax (op.apply l r) := by
  cases op with
  | divide =>
    unfold ArithmeticOp.apply
    dsimp only
    split
    · exact noSyntax_error rfl
    · exact noSyntax_ok _
  | _ => exact noSyntax_ok _

mutual

/-- Evaluation has no syntax errors. -/
theorem noSyntax_evaluate : (e : Expr) → NoSyntax (evaluate ctx e)
  | .literal value => noSyntax_ok value
  | .field name => noSyntax_ok (ctx.value name)
  | .arithmetic op left right =>
    (noSyntax_evaluate left).bind fun _ => (noSyntax_evaluate right).bind fun _ => noSyntax_arithmetic op _ _
  | .comparison op left right =>
    (noSyntax_evaluate left).bind fun _ => (noSyntax_evaluate right).bind fun _ => noSyntax_ok _
  | .call name args => by
    unfold evaluate
    cases Builtin.ofName? name with
    | none => exact noSyntax_error rfl
    | some f =>
      refine (noSyntax_checkArity f args.length).bind fun _ => ?_
      cases f with
      | ifThenElse => exact noSyntax_evaluateBranch args
      | and => exact noSyntax_evaluateUntil false args
      | or => exact noSyntax_evaluateUntil true args
      | _ => exact (noSyntax_evaluateAll args).bind fun _ => noSyntax_apply _ _ _

theorem noSyntax_evaluateBranch : (args : List Expr) → NoSyntax (evaluateBranch ctx args)
  | [] => noSyntax_error rfl
  | [condition] => (noSyntax_evaluate condition).bind fun _ => noSyntax_error rfl
  | [condition, ifTrue] => (noSyntax_evaluate condition).bind fun c => by
    dsimp only
    split
    · exact noSyntax_evaluate ifTrue
    · exact noSyntax_ok _
  | condition :: ifTrue :: ifFalse :: _ => (noSyntax_evaluate condition).bind fun c => by
    dsimp only
    split
    · exact noSyntax_evaluate ifTrue
    · exact noSyntax_evaluate ifFalse

theorem noSyntax_evaluateUntil (decisive : Bool) : (args : List Expr) → NoSyntax (evaluateUntil ctx decisive args)
  | [] => noSyntax_ok _
  | arg :: args => (noSyntax_evaluate arg).bind fun v => by
    split
    · exact noSyntax_ok _
    · exact noSyntax_evaluateUntil decisive args

theorem noSyntax_evaluateAll : (args : List Expr) → NoSyntax (evaluateAll ctx args)
  | [] => noSyntax_ok _
  | arg :: args => (noSyntax_evaluate arg).bind fun _ => (noSyntax_evaluateAll args).bind fun _ => noSyntax_ok _

end

theorem evaluateBranch_of_map {args args' : List Expr} (h : args'.map (evaluate ctx) = args.map (evaluate ctx)) :
    evaluateBranch ctx args' = evaluateBranch ctx args := by
  cases args with
  | nil => rw [List.map_eq_nil_iff.mp h]
  | cons condition branches =>
    obtain ⟨condition', branches', rfl, hcondition, hbranches⟩ := List.map_eq_cons_iff.mp h
    cases branches with
    | nil =>
      rw [List.map_eq_nil_iff.mp hbranches]
      simp only [evaluateBranch, hcondition]
    | cons ifTrue more =>
      obtain ⟨ifTrue', more', rfl, htrue, hmore⟩ := List.map_eq_cons_iff.mp hbranches
      cases more with
      | nil =>
        rw [List.map_eq_nil_iff.mp hmore]
        simp only [evaluateBranch, hcondition, htrue]
      | cons ifFalse rest =>
        obtain ⟨ifFalse', rest', rfl, hfalse, -⟩ := List.map_eq_cons_iff.mp hmore
        simp only [evaluateBranch, hcondition, htrue, hfalse]

theorem evaluateUntil_of_map (decisive : Bool) {args args' : List Expr}
    (h : args'.map (evaluate ctx) = args.map (evaluate ctx)) :
    evaluateUntil ctx decisive args' = evaluateUntil ctx decisive args := by
  induction args generalizing args' with
  | nil =>
    rw [List.map_eq_nil_iff.mp h]
  | cons arg args ih =>
    obtain ⟨arg', args', rfl, harg, hargs⟩ := List.map_eq_cons_iff.mp h
    simp only [evaluateUntil, harg, ih hargs]

theorem evaluateAll_of_map {args args' : List Expr} (h : args'.map (evaluate ctx) = args.map (evaluate ctx)) :
    evaluateAll ctx args' = evaluateAll ctx args := by
  induction args generalizing args' with
  | nil =>
    rw [List.map_eq_nil_iff.mp h]
  | cons arg args ih =>
    obtain ⟨arg', args', rfl, harg, hargs⟩ := List.map_eq_cons_iff.mp h
    simp only [evaluateAll, harg, ih hargs]

theorem length_of_evaluateAll {args : List Expr} {values : List Value} (h : evaluateAll ctx args = .ok values) :
    values.length = args.length := by
  induction args generalizing values with
  | nil => cases h; rfl
  | cons arg args ih =>
    obtain ⟨v, hv, h⟩ := exists_of_bind_eq_ok h
    obtain ⟨vs, hvs, h⟩ := exists_of_bind_eq_ok h
    cases h
    rw [List.length_cons, List.length_cons, ih hvs]

/-- The result of a call depends on the results of its arguments alone. -/
theorem evaluate_call_congr {args args' : List Expr} (h : args'.map (evaluate ctx) = args.map (evaluate ctx))
    (name : String) : evaluate ctx (.call name args') = evaluate ctx (.call name args) := by
  have hlength : args'.length = args.length := by simpa using congrArg List.length h
  simp only [evaluate, hlength, evaluateBranch_of_map h, evaluateUntil_of_map _ h, evaluateAll_of_map h]

/-- A call of an expandable function evaluates all arguments once their number is checked. -/
theorem evaluate_call_expandable {name : String} {f : Builtin} (hf : Builtin.ofName? name = some f)
    (hexpandable : f.isExpandable = true) (args : List Expr) : evaluate ctx (.call name args) =
      f.checkArity args.length >>= fun _ => evaluateAll ctx args >>= fun values => f.apply ctx.now values := by
  rw [evaluate, hf]
  cases f <;> first | rfl | cases hexpandable

theorem number_of_dateDifference {v w value : Value} {unit : Nat} (h : dateDifference v w unit = .ok value) :
    ∃ x, value = .number x := by
  obtain ⟨start, hstart, h⟩ := exists_of_bind_eq_ok h
  obtain ⟨stop, hstop, h⟩ := exists_of_bind_eq_ok h
  cases h
  exact ⟨_, rfl⟩

/-- The value of an expandable function is a number or a text. -/
theorem apply_expandable {f : Builtin} (hexpandable : f.isExpandable = true) {now : Instant} {args : List Value}
    {value : Value} (h : f.apply now args = .ok value) : (∃ x, value = .number x) ∨ ∃ s, value = .text s := by
  unfold Builtin.apply at h
  cases hf : f.compute? now args with
  | none =>
    rw [hf] at h
    cases h
  | some outcome =>
    rw [hf] at h
    change outcome = .ok value at h
    subst h
    unfold Builtin.compute? at hf
    split at hf
    all_goals first
      | exact .inl (number_of_dateDifference (Option.some.inj hf))
      | cases hf; exact .inl ⟨_, rfl⟩
      | cases hf; exact .inr ⟨_, rfl⟩
      | cases hexpandable
      | cases hf

end FormRules.Formula
