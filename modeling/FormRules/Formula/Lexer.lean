import FormRules.Formula.Builtin
import FormRules.Formula.Token
import FormRules.Text.Blank
import FormRules.Text.Case
import FormRules.Text.Letter

/-!
# Reading tokens

`tokenize` splits the text of a formula into tokens. A token is read from the front of the remaining text by
`Lexeme.read`, which knows of the tokens before it only whether the last one ends an operand: where it does
not, a minus may be the sign of a number. Blanks stand between tokens at will; the last token is `eof`, at the
length of the text.
-/

namespace FormRules.Formula

open Text (isBlank isLetter isLetterOrNumeral upper)

/-- A token as read: how many characters it has after its first one. -/
structure Lexeme where
  kind : TokenKind
  text : String
  tail : Nat
  deriving DecidableEq, Repr

namespace Lexeme

def isDigitFirst : List Char → Bool
  | c :: _ => c.isDigit
  | [] => false

/-- Whether a number without a sign starts here: a digit, or a point before a digit. -/
def startsNumber : List Char → Bool
  | '.' :: rest => isDigitFirst rest
  | cs => isDigitFirst cs

def isNameStart (c : Char) : Bool := isLetter c || c = '_'

def isNameChar (c : Char) : Bool := isLetterOrNumeral c || c = '_'

/-- The name in brackets that follows an opening bracket at `position`. -/
def field (position : Nat) (cs : List Char) : Outcome Lexeme :=
  let inner := cs.takeWhile fun c => c ≠ ']' ∧ c ≠ '['
  match cs.drop inner.length with
  | [] => .error (.malformed position .unterminatedField)
  | c :: _ =>
    if c = '[' then .error (.malformed (position + 1 + inner.length) .nestedBracket)
    else
      let name := Text.trimChars inner
      if name.isEmpty then .error (.malformed position .emptyField)
      else .ok ⟨.field, String.ofList name, inner.length + 1⟩

/-- The content of a text literal up to its closing quote, and how many characters that takes. -/
def quoted? : List Char → Option (List Char × Nat)
  | [] => none
  | '"' :: '"' :: rest => (quoted? rest).map fun (content, size) => ('"' :: content, size + 2)
  | '"' :: _ => some ([], 1)
  | c :: rest => (quoted? rest).map fun (content, size) => (c :: content, size + 1)

/-- The text literal that follows an opening quote at `position`. -/
def textLiteral (position : Nat) (cs : List Char) : Outcome Lexeme :=
  match quoted? cs with
  | some (content, size) => .ok ⟨.text, String.ofList content, size⟩
  | none => .error (.malformed position .unterminatedText)

/-- The digits that a text starts with, with a point and more digits if a digit follows the point. -/
def unsignedNumber (cs : List Char) : List Char :=
  let whole := cs.takeWhile Char.isDigit
  match cs.drop whole.length with
  | '.' :: rest => if isDigitFirst rest then whole ++ '.' :: rest.takeWhile Char.isDigit else whole
  | _ => whole

def number (sign : List Char) (cs : List Char) : Lexeme :=
  let chars := sign ++ unsignedNumber cs
  ⟨.number, String.ofList chars, chars.length - 1⟩

/-- The word that starts with `c`: a truth value, or a function if it is a built-in one or an opening
parenthesis is next. -/
def word (position : Nat) (c : Char) (rest : List Char) : Outcome Lexeme :=
  let tail := rest.takeWhile isNameChar
  let written := String.ofList (c :: tail)
  let name := upper written
  if name = "TRUE" ∨ name = "FALSE" then .ok ⟨.boolean, name, tail.length⟩
  else if (Builtin.ofName? name).isSome ∨ (Text.trimStart (rest.drop tail.length)).head? = some '(' then
    .ok ⟨.function, name, tail.length⟩
  else .error (.malformed position (.unknownWord written))

/-- The operator that starts with `c`, the longer one first. -/
def operator? (c : Char) (rest : List Char) : Option Lexeme :=
  match c, rest with
  | '<', '>' :: _ => some ⟨.operator, "<>", 1⟩
  | '<', '=' :: _ => some ⟨.operator, "<=", 1⟩
  | '>', '=' :: _ => some ⟨.operator, ">=", 1⟩
  | _, _ => if c ∈ ['=', '<', '>', '+', '-', '*', '/'] then some ⟨.operator, c.toString, 0⟩ else none

/-- The token that `c :: rest` starts with, where `c` stands at `position`. -/
def read (afterOperand : Bool) (position : Nat) (c : Char) (rest : List Char) : Outcome Lexeme :=
  if c = '[' then field position rest
  else if c = '"' then textLiteral position rest
  else if c = '(' then .ok ⟨.openParen, "(", 0⟩
  else if c = ')' then .ok ⟨.closeParen, ")", 0⟩
  else if c = ',' then .ok ⟨.comma, ",", 0⟩
  else if startsNumber (c :: rest) then .ok (number [] (c :: rest))
  -- after an operand a minus subtracts; before a number elsewhere it is the number's sign
  else if c = '-' ∧ !afterOperand ∧ startsNumber rest then .ok (number ['-'] rest)
  else match operator? c rest with
    | some lexeme => .ok lexeme
    | none =>
      if isNameStart c then word position c rest
      else .error (.malformed position (.strayCharacter c))

end Lexeme

/-- The tokens of the text `cs`, which stands at `position` after a token that does or does not end an
operand. -/
def tokenizeFrom (afterOperand : Bool) (position : Nat) (cs : List Char) : Outcome (List Token) :=
  match cs with
  | [] => .ok [.eof position]
  | c :: rest =>
    if isBlank c then tokenizeFrom afterOperand (position + 1) rest
    else do
      let lexeme ← Lexeme.read afterOperand position c rest
      let tokens ← tokenizeFrom lexeme.kind.endsOperand (position + 1 + lexeme.tail) (rest.drop lexeme.tail)
      return ⟨lexeme.kind, lexeme.text, position⟩ :: tokens
termination_by cs.length
decreasing_by
  · simp
  · simp only [List.length_drop, List.length_cons]; omega

/-- The tokens of a formula. -/
def tokenize (formula : String) : Outcome (List Token) := tokenizeFrom false 0 formula.toList

/-- The names of a list, each at its first place. -/
def distinct : List String → List String
  | [] => []
  | name :: rest => name :: (distinct rest).filter (· ≠ name)

/-- The names of the fields among some tokens, each once, in the order of their first appearance. -/
def fieldNames (tokens : List Token) : List String :=
  distinct ((tokens.filter (·.kind = .field)).map (·.text))

/-- The names of the fields that a formula refers to. -/
def fieldReferences (formula : String) : Outcome (List String) := (tokenize formula).map fieldNames

end FormRules.Formula
