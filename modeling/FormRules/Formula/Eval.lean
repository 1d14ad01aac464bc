import FormRules.Field
import FormRules.Formula.Comparison
import FormRules.Formula.Function

/-!
# Evaluating formulas

An expression is evaluated on the values and fields of a form at an instant. Operands and arguments are
evaluated from left to right, and the first error is the result. `IF`, `AND` and `OR` evaluate only the
arguments that decide the result; a call of another function evaluates all its arguments after their number is
checked.
-/

namespace FormRules.Formula

/-- What a formula is evaluated on. -/
structure Context where
  data : FormData
  fields : FieldMap
  now : Instant

/-- The value of the field with the given name. -/
def Context.value (ctx : Context) (name : String) : Value := FormData.lookup ctx.data ctx.fields name

/-- The result of an operation on two numbers. -/
def ArithmeticOp.apply (op : ArithmeticOp) (left right : Binary64) : Outcome Value :=
  match op with
  | add => .ok (.number (left + right))
  | subtract => .ok (.number (left - right))
  | multiply => .ok (.number (left * right))
  | divide => if right.isZero then .error (.failed .divisionByZero) else .ok (.number (left / right))

/-- A function lacks an argument that it needs. -/
def Builtin.tooFew {α : Type} (f : Builtin) (actual : Nat) : Outcome α :=
  .error (.argumentCount f.name (.atLeast f.minArgs) actual)

/-- The result of a function on its evaluated arguments. -/
def Builtin.apply (f : Builtin) (now : Instant) (args : List Value) : Outcome Value :=
  (f.compute? now args).getD (f.tooFew args.length)

mutual

def evaluate (ctx : Context) : Expr → Outcome Value
  | .literal value => .ok value
  | .field name => .ok (ctx.value name)
  | .arithmetic op left right => do
    let l ← evaluate ctx left
    let r ← evaluate ctx right
    op.apply l.toNumber r.toNumber
  | .comparison op left right => do
    let l ← evaluate ctx left
    let r ← evaluate ctx right
    return .boolean (op.holds l r)
  | .call name args =>
    match Builtin.ofName? name with
    | none => .error (.unknownFunction name)
    | some f => do
      f.checkArity args.length
      match f with
      | .ifThenElse => evaluateBranch ctx args
      | .and => evaluateUntil ctx false args
      | .or => evaluateUntil ctx true args
      | f => do
        let values ← evaluateAll ctx args
        f.apply ctx.now values

/-- A condition and the branch that it selects; without a second branch the result is `FALSE`. -/
def evaluateBranch (ctx : Context) : List Expr → Outcome Value
  | condition :: branches => do
    let c ← evaluate ctx condition
    match branches with
    | [ifTrue] => if c.toBool then evaluate ctx ifTrue else .ok (.boolean false)
    | ifTrue :: ifFalse :: _ => if c.toBool then evaluate ctx ifTrue else evaluate ctx ifFalse
    | [] => Builtin.tooFew .ifThenElse 1
  | [] => Builtin.tooFew .ifThenElse 0

/-- The truth value `decisive` if some expression has it, else the other one; none is evaluated after that. -/
def evaluateUntil (ctx : Context) (decisive : Bool) : List Expr → Outcome Value
  | [] => .ok (.boolean !decisive)
  | arg :: args => do
    let v ← evaluate ctx arg
    if v.toBool = decisive then return .boolean decisive else evaluateUntil ctx decisive args

/-- The values of some expressions. -/
def evaluateAll (ctx : Context) : List Expr → Outcome (List Value)
  | [] => .ok []
  | arg :: args => do
    let v ← evaluate ctx arg
    let vs ← evaluateAll ctx args
    return v :: vs

end

end FormRules.Formula
