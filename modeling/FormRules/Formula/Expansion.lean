import FormRules.Formula.Eval
import FormRules.Formula.Parser

/-!
# Expanding calls to their values

Calls of the expandable functions are replaced by a literal with their value for the current form and instant.
The arguments of a call are the tokens between its parentheses, split at the commas that no inner parentheses
enclose; each is expanded first, then parsed and evaluated. A call whose value cannot be computed is left as
it is written.

* `expandTokens` rewrites a token list;
* `expandFormula` rewrites the text of a formula that parses.
-/

namespace FormRules.Formula

namespace Expansion

/-- The tokens up to the parenthesis that closes the current one, that parenthesis, and the tokens after it;
`depth` inner parentheses are open. -/
def untilClose? (depth : Nat) : List Token → Option (List Token × Token × List Token)
  | [] => none
  | token :: rest =>
    match token.kind, depth with
    | .closeParen, 0 => some ([], token, rest)
    | .closeParen, depth + 1 => (untilClose? depth rest).map fun (inner, more) => (token :: inner, more)
    | .openParen, depth => (untilClose? (depth + 1) rest).map fun (inner, more) => (token :: inner, more)
    | _, depth => (untilClose? depth rest).map fun (inner, more) => (token :: inner, more)

/-- The arguments among the tokens that follow `current` in a call, which a parenthesis at `close` ends. -/
def argumentsFrom (close : Nat) (depth : Nat) (current : List Token) :
    List Token → Outcome (List (List Token))
  | [] => if current.isEmpty then .error (.malformed close .emptyArgument) else .ok [current]
  | token :: rest =>
    if token.kind = .comma ∧ depth = 0 then
      if current.isEmpty then .error (.malformed token.position .emptyArgument)
      else do
        let args ← argumentsFrom close 0 [] rest
        return current :: args
    else
      let depth := match token.kind with
        | .openParen => depth + 1
        | .closeParen => depth - 1
        | _ => depth
      argumentsFrom close depth (current ++ [token]) rest

/-- The arguments of a call, of which `inner` are the tokens between the parentheses. -/
def splitArguments (close : Nat) (inner : List Token) : Outcome (List (List Token)) :=
  if inner.isEmpty then .ok [] else argumentsFrom close 0 [] inner

/-- The literal token of a value. -/
def literalToken (value : Value) (position : Nat) : Token :=
  match value with
  | .null => ⟨.text, "", position⟩
  | .boolean b => ⟨.boolean, Value.boolText b, position⟩
  | .number x => ⟨.number, x.plain, position⟩
  | .text s => ⟨.text, s, position⟩

/-- The function of a call that is to be expanded: the token is its name, and a parenthesis follows. -/
def callee? (token : Token) (rest : List Token) : Option Builtin :=
  if token.kind = .function ∧ (rest.head?.any (·.kind = .openParen)) then
    (Builtin.ofName? token.text).filter (·.isExpandable)
  else none

/-- The value of an expanded argument. -/
def evaluateTokens (ctx : Context) (tokens : List Token) : Outcome Value := do
  let expr ← parseTokens (tokens ++ [.eof (tokens.getLast?.elim 0 (·.position))])
  evaluate ctx expr

/-- The value of a call on its evaluated arguments. -/
def applyCall (ctx : Context) (f : Builtin) (values : List Value) : Outcome Value := do
  f.checkArity values.length
  f.apply ctx.now values

theorem length_of_untilClose? {depth : Nat} {tokens inner rest : List Token} {close : Token}
    (h : untilClose? depth tokens = some (inner, close, rest)) :
    tokens.length = inner.length + rest.length + 1 := by
  induction tokens generalizing depth inner with
  | nil => simp [untilClose?] at h
  | cons token tokens ih =>
    unfold untilClose? at h
    split at h
    · obtain ⟨rfl, rfl, rfl⟩ := by simpa using h
      simp
    all_goals
      simp only [Option.map_eq_some_iff, Prod.mk.injEq, Prod.exists] at h
      obtain ⟨inner', close', rest', h, rfl, rfl, rfl⟩ := h
      have := ih h
      simp only [List.length_cons]
      omega

/-- How many tokens some arguments take with the commas between them, and one more. -/
def size : List (List Token) → Nat
  | [] => 0
  | arg :: args => arg.length + 1 + size args

theorem size_of_argumentsFrom {close depth : Nat} {current tokens : List Token} {args : List (List Token)}
    (h : argumentsFrom close depth current tokens = .ok args) :
    size args = current.length + tokens.length + 1 := by
  induction tokens generalizing depth current args with
  | nil =>
    unfold argumentsFrom at h
    split at h
    · cases h
    · cases h; simp [size]
  | cons token tokens ih =>
    unfold argumentsFrom at h
    split at h
    · split at h
      · cases h
      · cases hr : argumentsFrom close 0 [] tokens with
        | error e => rw [hr] at h; cases h
        | ok rest =>
          rw [hr] at h
          cases h
          have := ih hr
          simp only [size, List.length_nil, List.length_cons] at this ⊢
          omega
    · have := ih h
      simp only [List.length_append, List.length_cons, List.length_nil] at this ⊢
      omega

theorem size_of_splitArguments {close : Nat} {inner : List Token} {args : List (List Token)}
    (h : splitArguments close inner = .ok args) : size args ≤ inner.length + 1 := by
  unfold splitArguments at h
  split at h
  · cases h; simp [size]
  · have := size_of_argumentsFrom h
    simp only [List.length_nil] at this
    omega

end Expansion

open Expansion

mutual

/-- Replaces the expandable calls in a token list by their values. -/
def expandTokens (ctx : Context) (tokens : List Token) : Outcome (List Token) :=
  match tokens with
  | [] => .ok []
  | token :: rest =>
    match callee? token rest, rest with
    | some f, opening :: rest =>
      match _hc : untilClose? 0 rest with
      | none => .error (.malformed opening.position .unmatchedParen)
      | some (inner, close, after) =>
        match _ha : splitArguments close.position inner with
        | .error e => .error e
        | .ok args =>
          match (evaluateArguments ctx args).bind (applyCall ctx f) with
          | .ok value => (expandTokens ctx after).map (literalToken value token.position :: ·)
          -- the call stays as it is written, arguments included
          | .error (.failed _) =>
            (expandTokens ctx after).map fun tokens => token :: opening :: (inner ++ close :: tokens)
          | .error e => .error e
    | _, rest => (expandTokens ctx rest).map (token :: ·)
termination_by tokens.length
decreasing_by
  · have := length_of_untilClose? _hc
    have := size_of_splitArguments _ha
    simp only [List.length_cons]
    omega
  · have := length_of_untilClose? _hc
    simp only [List.length_cons]
    omega
  · have := length_of_untilClose? _hc
    simp only [List.length_cons]
    omega
  · simp

/-- The values of the arguments of a call, each expanded first. -/
def evaluateArguments (ctx : Context) (args : List (List Token)) : Outcome (List Value) :=
  match args with
  | [] => .ok []
  | arg :: args => do
    let tokens ← expandTokens ctx arg
    let value ← evaluateTokens ctx tokens
    let values ← evaluateArguments ctx args
    return value :: values
termination_by size args
decreasing_by
  · simp only [size]; omega
  · simp only [size]; omega

end

/-- The text of a formula with the expandable calls replaced by their values. -/
def expandFormula (ctx : Context) (formula : String) : Outcome String := do
  let tokens ← tokenize formula
  discard <| parseTokens tokens
  let expanded ← expandTokens ctx tokens
  return Token.render expanded

end FormRules.Formula
