import FormRules.Formula.Expr
import FormRules.Formula.Lexer

/-!
# Parsing formulas

The grammar, loosest first, with every chain of operators grouped from the left:

* an expression is a chain of sums joined by comparisons;
* a sum is a chain of products joined by `+` and `-`;
* a product is a chain of atoms joined by `*` and `/`;
* an atom is a field, a literal, a call of a function with expressions as arguments, an expression in
  parentheses, or a minus before an atom, which stands for `0 - atom`.

A parser takes tokens from the front of a list that ends with `eof`. Each parenthesis, argument and minus
before an atom opens a level, and the formula itself is the first of `maxLevels` levels; `atom levels` reads
an atom inside which `levels` more may open.
-/

namespace FormRules.Formula

/-- Reads something from the front of a token list and gives the tokens left. -/
abbrev Parser (α : Type) := List Token → Outcome (α × List Token)

namespace Parser

/-- The position of the next token. -/
def position : List Token → Nat
  | token :: _ => token.position
  | [] => 0

/-- The next token is not what the grammar asks for. -/
def missing {α : Type} (expectation : Expectation) : List Token → Outcome α
  | [] => .error (.malformed 0 (.missing expectation none))
  | token :: _ =>
    let found := if token.kind = .eof then none else some token.text
    .error (.malformed token.position (.missing expectation found))

/-- Takes a token of the given kind. -/
def expect (kind : TokenKind) (expectation : Expectation) (tokens : List Token) : Outcome (List Token) :=
  match tokens with
  | token :: rest => if token.kind = kind then .ok rest else missing expectation tokens
  | [] => missing expectation tokens

/-- The operation that a token joins two operands by. -/
abbrev Joint := Token → Option (Expr → Expr → Expr)

def comparisonJoint : Joint := fun token =>
  if token.kind = .operator then (ComparisonOp.ofSymbol? token.text).map Expr.comparison else none

def sumJoint : Joint := fun token =>
  if token.kind = .operator then
    match ArithmeticOp.ofSymbol? token.text with
    | some .add => some (.arithmetic .add)
    | some .subtract => some (.arithmetic .subtract)
    | _ => none
  else none

def productJoint : Joint := fun token =>
  if token.kind = .operator then
    match ArithmeticOp.ofSymbol? token.text with
    | some .multiply => some (.arithmetic .multiply)
    | some .divide => some (.arithmetic .divide)
    | _ => none
  else none

/-- Continues a chain: joins `left` with further operands as long as a joining token is next. An operand takes
at least one token, so the chain ends. -/
def chainFrom (joint : Joint) (operand : Parser Expr) (left : Expr) (tokens : List Token) :
    Outcome (Expr × List Token) :=
  match tokens with
  | [] => .ok (left, [])
  | token :: rest =>
    match joint token with
    | none => .ok (left, token :: rest)
    | some join =>
      match operand rest with
      | .error e => .error e
      | .ok (right, tokens) =>
        if tokens.length ≤ rest.length then chainFrom joint operand (join left right) tokens
        else .ok (join left right, tokens)
termination_by tokens.length
decreasing_by simp only [List.length_cons]; omega

/-- Operands joined from the left. -/
def chain (joint : Joint) (operand : Parser Expr) : Parser Expr := fun tokens =>
  match operand tokens with
  | .error e => .error e
  | .ok (left, tokens) => chainFrom joint operand left tokens

/-- A chain of sums of products. -/
def comparisons (atom : Parser Expr) : Parser Expr :=
  chain comparisonJoint (chain sumJoint (chain productJoint atom))

/-- An argument of a call, which is not empty. -/
def argument (expression : Parser Expr) : Parser Expr := fun tokens =>
  match tokens with
  | token :: _ =>
    if token.kind = .comma ∨ token.kind = .closeParen then .error (.malformed token.position .emptyArgument)
    else expression tokens
  | [] => expression tokens

/-- The arguments that follow an argument, and the closing parenthesis. -/
def argumentsFrom (expression : Parser Expr) (args : List Expr) (tokens : List Token) :
    Outcome (List Expr × List Token) :=
  match tokens with
  | [] => missing .argumentEnd []
  | token :: rest =>
    if token.kind = .comma then
      match argument expression rest with
      | .error e => .error e
      | .ok (arg, tokens) =>
        if tokens.length ≤ rest.length then argumentsFrom expression (args ++ [arg]) tokens
        else missing .argumentEnd tokens
    else if token.kind = .closeParen then .ok (args, rest)
    else missing .argumentEnd (token :: rest)
termination_by tokens.length
decreasing_by simp only [List.length_cons]; omega

/-- The parenthesised arguments of a call. -/
def arguments (function : String) (expression : Parser Expr) : Parser (List Expr) := fun tokens =>
  match expect .openParen (.callParen function) tokens with
  | .error e => .error e
  | .ok tokens =>
    match tokens with
    | [] => missing .argumentEnd []
    | token :: rest =>
      if token.kind = .closeParen then .ok ([], rest)
      else match argument expression tokens with
        | .error e => .error e
        | .ok (arg, tokens) => argumentsFrom expression [arg] tokens

/-- Refuses to open a level. -/
def tooDeep {α : Type} : Parser α := fun tokens => .error (.malformed (position tokens) .tooDeep)

/-- An atom inside which `levels` levels may open. -/
def atom (levels : Nat) : Parser Expr
  | [] => missing .value []
  | token :: rest =>
    let (inner, expression) : Parser Expr × Parser Expr := match levels with
      | 0 => (tooDeep, tooDeep)
      | levels + 1 => (atom levels, comparisons (atom levels))
    match token.kind with
    | .field => .ok (.field token.text, rest)
    | .text => .ok (.literal (.text token.text), rest)
    | .number =>
      match Binary64.read? token.text.toList with
      | some x => .ok (.literal (.number x), rest)
      | none => .error (.malformed token.position (.badNumber token.text))
    | .boolean => .ok (.literal (.boolean (token.text = "TRUE")), rest)
    | .function => do
      let (args, rest) ← arguments token.text expression rest
      return (.call token.text args, rest)
    | .openParen => do
      let (value, rest) ← expression rest
      let rest ← expect .closeParen .closeParen rest
      return (value, rest)
    | .operator =>
      -- any other operator cannot start an atom
      if token.text = "-" then do
        let (operand, rest) ← inner rest
        return (.arithmetic .subtract (.literal (.number (.zero false))) operand, rest)
      else missing .value (token :: rest)
    | _ => missing .value (token :: rest)

/-- An expression, which is a level itself. -/
def expression : (levels : Nat) → Parser Expr
  | 0 => tooDeep
  | levels + 1 => comparisons (atom levels)

end Parser

/-- The tokens up to the first `eof`; if there is none, one is added at the position of the last token. -/
def terminated (tokens : List Token) : List Token :=
  let body := tokens.takeWhile (·.kind ≠ .eof)
  match tokens.drop body.length with
  | last :: _ => body ++ [last]
  | [] => body ++ [.eof (tokens.getLast?.elim 0 (·.position))]

/-- The expression that a token list denotes. -/
def parseTokens (tokens : List Token) : Outcome Expr :=
  match terminated tokens with
  | [last] => .error (.malformed last.position .emptyFormula)
  | tokens =>
    match Parser.expression maxLevels tokens with
    | .error e => .error e
    | .ok (_, []) => .error (.malformed 0 .emptyFormula)
    | .ok (value, token :: _) =>
      if token.kind = .eof then .ok value else .error (.malformed token.position (.trailing token.text))

/-- The expression that a formula denotes. -/
def parseFormula (formula : String) : Outcome Expr := (tokenize formula).bind parseTokens

end FormRules.Formula
