import FormRules.Proofs.Formula.Evaluation

/-!
# Calls with their arguments by place

A function finds its arguments by their places, and nothing but the check of their number in front of the call says that
there are enough. A `Checked` computation is stuck where a step cannot be taken, such as reading at a place outside of a
list; `evaluateChecked` evaluates an expression in this way, each argument where its function asks for it. Once the
number of arguments is checked, no function asks for one that is not there (`callChecked_evaluated`), so evaluation is
never stuck and has the outcome of `evaluate` (`evaluateChecked_eq`).
-/

namespace FormRules.Formula

/-- The outcome of a computation, or none if it is stuck: where it reads outside of a list, counts below zero, or goes
on for longer than it may. -/
abbrev Checked (α : Type) := ExceptT Error Option α

namespace Checked

variable {α β : Type}

/-- The computation with the given outcome. -/
def of (outcome : Outcome α) : Checked α := ExceptT.mk (some outcome)

def stuck : Checked α := ExceptT.mk none

/-- The item at a place of a list. -/
def itemAt (items : List α) (place : Nat) : Checked α := (items[place]?).elim stuck pure

theorem bind_ok {a : α} {next : α → Checked β} : (of (.ok a) >>= next) = next a := rfl

/-- A computation goes on with the result of the one before. -/
theorem bind_of {m : Checked α} {outcome : Outcome α} {next : α → Checked β} {next' : α → Outcome β}
    (h : m = of outcome) (hnext : ∀ a, outcome = .ok a → next a = of (next' a)) :
    (m >>= next) = of (outcome >>= next') := by
  subst h
  cases outcome with
  | error e => rfl
  | ok a => exact hnext a rfl

end Checked

open Checked (stuck itemAt bind_of)

variable {ctx : Context}

/-- The truth value `decisive` if some argument has it, else the other one; none is evaluated after that. -/
def untilTruth (decisive : Bool) : List (Checked Value) → Checked Value
  | [] => return .boolean !decisive
  | arg :: args => do
    let v ← arg
    if v.toBool = decisive then return .boolean decisive else untilTruth decisive args

/-- A call of a function that asks for its arguments by their places, the evaluation of which is still to be done. -/
def Builtin.callChecked (f : Builtin) (now : Instant) (args : List (Checked Value)) : Checked Value :=
  match f with
  | .ifThenElse => do
    let condition ← itemAt args 0
    let c ← condition
    if c.toBool then
      let ifTrue ← itemAt args 1
      ifTrue
    else args[2]?.getD (return .boolean false)
  | .and => untilTruth false args
  | .or => untilTruth true args
  | f => do
    let values ← args.mapM id
    ExceptT.mk (f.compute? now values)

mutual

/-- The value of an expression, with the arguments of calls by their places. -/
def evaluateChecked (ctx : Context) : Expr → Checked Value
  | .literal value => return value
  | .field name => return ctx.value name
  | .arithmetic op left right => do
    let l ← evaluateChecked ctx left
    let r ← evaluateChecked ctx right
    Checked.of (op.apply l.toNumber r.toNumber)
  | .comparison op left right => do
    let l ← evaluateChecked ctx left
    let r ← evaluateChecked ctx right
    return .boolean (op.holds l r)
  | .call name args =>
    match Builtin.ofName? name with
    | none => Checked.of (.error (.unknownFunction name))
    | some f => do
      Checked.of (f.checkArity args.length)
      f.callChecked ctx.now (argumentsChecked ctx args)

/-- The evaluation of each argument of a call. -/
def argumentsChecked (ctx : Context) : List Expr → List (Checked Value)
  | [] => []
  | arg :: args => evaluateChecked ctx arg :: argumentsChecked ctx args

end

/-! ### Calls whose arguments are counted -/

theorem minArgs_le_of_checkArity {f : Builtin} {actual : Nat} (h : f.checkArity actual = .ok ()) :
    f.minArgs ≤ actual := by
  unfold Builtin.checkArity at h
  split at h
  · cases h
  · omega

/-- A function that takes all its arguments evaluated has a result for any that are not too few. -/
theorem exists_compute? {f : Builtin} (hlazy : f.isLazy = false) (now : Instant) {values : List Value}
    (h : f.minArgs ≤ values.length) : ∃ outcome, f.compute? now values = some outcome := by
  match values with
  | [] => cases f <;> first | exact ⟨_, rfl⟩ | exact absurd h (by decide)
  | [_] => cases f <;> first | exact ⟨_, rfl⟩ | exact absurd (show 2 ≤ 1 from h) (by decide) | cases hlazy
  | [_, _] => cases f <;> first | exact ⟨_, rfl⟩ | cases hlazy
  | _ :: _ :: _ :: _ => cases f <;> first | exact ⟨_, rfl⟩ | cases hlazy

theorem compute?_eq_apply {f : Builtin} (hlazy : f.isLazy = false) (now : Instant) {values : List Value}
    (h : f.minArgs ≤ values.length) : f.compute? now values = some (f.apply now values) := by
  obtain ⟨outcome, houtcome⟩ := exists_compute? hlazy now h
  rw [Builtin.apply, houtcome, Option.getD_some]

/-- The evaluation of some expressions that is not stuck. -/
def evaluated (ctx : Context) (args : List Expr) : List (Checked Value) := args.map fun arg => .of (evaluate ctx arg)

theorem callChecked_ifThenElse {args : List Expr} (h : 2 ≤ args.length) (now : Instant) :
    Builtin.ifThenElse.callChecked now (evaluated ctx args) = .of (evaluateBranch ctx args) := by
  match args with
  | [] | [_] => exact absurd h (by simp)
  | [condition, ifTrue] =>
    show (Checked.of (evaluate ctx condition) >>= fun c =>
      if c.toBool then Checked.of (evaluate ctx ifTrue) else .of (.ok (.boolean false))) = _
    rw [evaluateBranch]
    refine bind_of rfl fun c _ => ?_
    dsimp only
    split <;> rfl
  | condition :: ifTrue :: ifFalse :: rest =>
    show (Checked.of (evaluate ctx condition) >>= fun c =>
      if c.toBool then Checked.of (evaluate ctx ifTrue) else .of (evaluate ctx ifFalse)) = _
    rw [evaluateBranch]
    refine bind_of rfl fun c _ => ?_
    dsimp only
    split <;> rfl

theorem untilTruth_evaluated (decisive : Bool) (args : List Expr) :
    untilTruth decisive (evaluated ctx args) = .of (evaluateUntil ctx decisive args) := by
  induction args with
  | nil => rfl
  | cons arg args ih =>
    refine bind_of rfl fun v _ => ?_
    split
    · rfl
    · exact ih

theorem mapM_evaluated (args : List Expr) : (evaluated ctx args).mapM id = .of (evaluateAll ctx args) := by
  induction args with
  | nil => rfl
  | cons arg args ih =>
    rw [evaluated, List.map_cons, List.mapM_cons]
    exact bind_of rfl fun v _ => bind_of ih fun vs _ => rfl

theorem callChecked_evaluated {name : String} {f : Builtin} {args : List Expr} (hf : Builtin.ofName? name = some f)
    (harity : f.checkArity args.length = .ok ()) :
    f.callChecked ctx.now (evaluated ctx args) = .of (evaluate ctx (.call name args)) := by
  have hmin : f.minArgs ≤ args.length := minArgs_le_of_checkArity harity
  have heager (hlazy : f.isLazy = false) : (do
      let values ← (evaluated ctx args).mapM id
      ExceptT.mk (f.compute? ctx.now values)) =
        Checked.of (evaluateAll ctx args >>= fun values => f.apply ctx.now values) := by
    refine bind_of (mapM_evaluated args) fun values hvalues => ?_
    rw [compute?_eq_apply hlazy ctx.now (length_of_evaluateAll hvalues ▸ hmin)]
    rfl
  rw [evaluate, hf]
  dsimp only
  rw [harity]
  cases f with
  | ifThenElse => exact callChecked_ifThenElse hmin ctx.now
  | and => exact untilTruth_evaluated false args
  | or => exact untilTruth_evaluated true args
  | _ => exact heager rfl

/-- The check is what keeps a function from asking for more. -/
example (now : Instant) : Builtin.not.callChecked now [] = stuck ∧
    Builtin.not.checkArity 0 = .error (.argumentCount "NOT" (.atLeast 1) 0) := ⟨rfl, rfl⟩

/-! ### Evaluation -/

mutual

/-- Evaluation is never stuck. -/
theorem evaluateChecked_eq : (e : Expr) → evaluateChecked ctx e = .of (evaluate ctx e)
  | .literal value => rfl
  | .field name => rfl
  | .arithmetic op left right =>
    bind_of (evaluateChecked_eq left) fun _ _ => bind_of (evaluateChecked_eq right) fun _ _ => rfl
  | .comparison op left right =>
    bind_of (evaluateChecked_eq left) fun _ _ => bind_of (evaluateChecked_eq right) fun _ _ => rfl
  | .call name args => by
    cases hf : Builtin.ofName? name with
    | none => simp only [evaluateChecked, evaluate, hf]
    | some f =>
      cases harity : f.checkArity args.length with
      | error e =>
        simp only [evaluateChecked, evaluate, hf, harity]
        rfl
      | ok _ =>
        rw [← callChecked_evaluated hf harity, evaluateChecked, hf, ← argumentsChecked_eq args]
        dsimp only
        rw [harity]
        rfl

theorem argumentsChecked_eq : (args : List Expr) → argumentsChecked ctx args = evaluated ctx args
  | [] => rfl
  | arg :: args => by
    rw [argumentsChecked, evaluateChecked_eq arg, argumentsChecked_eq args]
    rfl

end

end FormRules.Formula
