/-!
# Tokens of formulas

A formula is a list of tokens, each with the position of its first character. `render` writes tokens back as
the text of a formula, without blanks between them.
-/

namespace FormRules.Formula

inductive TokenKind where
  | field
  | text
  | number
  | boolean
  | function
  | operator
  | openParen
  | closeParen
  | comma
  | eof
  deriving DecidableEq, Repr

/-- Tokens that can end an operand: a minus after one of them is a subtraction. -/
def TokenKind.endsOperand : TokenKind → Bool
  | field | text | number | boolean | closeParen => true
  | _ => false

/-- A token: its text is the name of a field without the brackets, the content of a text literal without the
quotes, the upper case of a word, and what is written otherwise. -/
structure Token where
  kind : TokenKind
  text : String
  position : Nat
  deriving DecidableEq, Repr

namespace Token

/-- The end of a formula. -/
def eof (position : Nat) : Token := ⟨.eof, "", position⟩

/-- The content of a text literal with each quote written twice. -/
def escapeQuotes : List Char → List Char
  | [] => []
  | c :: rest => if c = '"' then '"' :: '"' :: escapeQuotes rest else c :: escapeQuotes rest

/-- What is written for a token. -/
def written (token : Token) : List Char :=
  match token.kind with
  | .field => '[' :: (token.text.toList ++ [']'])
  | .text => '"' :: (escapeQuotes token.text.toList ++ ['"'])
  | .eof => []
  | _ => token.text.toList

/-- The text of a formula with the given tokens. -/
def render (tokens : List Token) : String := String.ofList (tokens.flatMap written)

end Token

end FormRules.Formula
