/-!
# Errors of formulas

A formula fails because its text is malformed, because it calls a function that does not exist or with a wrong
number of arguments, or because a value cannot be computed. Each error is its cause; `message` words it.
-/

namespace FormRules.Formula

/-- What a token list lacks at some place. -/
inductive Expectation where
  | value
  | callParen (function : String)
  | argumentEnd
  | closeParen
  deriving DecidableEq, Repr

def Expectation.message : Expectation → String
  | value => "a value"
  | callParen function => "'(' after " ++ function
  | argumentEnd => "',' or ')'"
  | closeParen => "')'"

/-- The deepest nesting of parentheses, arguments and minus signs in front of operands, the formula itself
included. -/
def maxLevels : Nat := 256

/-- What is wrong with the text of a formula. -/
inductive Fault where
  | nestedBracket
  | unterminatedField
  | emptyField
  | unterminatedText
  | unknownWord (word : String)
  | strayCharacter (c : Char)
  | emptyFormula
  | trailing (text : String)
  | missing (expectation : Expectation) (found : Option String)
  | badNumber (text : String)
  | emptyArgument
  | tooDeep
  | unmatchedParen
  deriving DecidableEq, Repr

def Fault.message : Fault → String
  | nestedBracket => "Nested '[' in field reference"
  | unterminatedField => "Unterminated field reference"
  | emptyField => "Empty field reference"
  | unterminatedText => "Unterminated string literal"
  | unknownWord word => "Unknown identifier '" ++ word ++ "'"
  | strayCharacter c => "Unexpected character '" ++ c.toString ++ "'"
  | emptyFormula => "Empty formula"
  | trailing text => "Unexpected '" ++ text ++ "' after expression"
  | missing expectation found =>
    "Expected " ++ expectation.message ++ ", found " ++
      match found with
      | some text => "'" ++ text ++ "'"
      | none => "end of formula"
  | badNumber text => "Invalid number '" ++ text ++ "'"
  | emptyArgument => "Empty function argument"
  | tooDeep => "Formula nested deeper than " ++ toString maxLevels ++ " levels"
  | unmatchedParen => "Unmatched '('"

/-- The bound that a number of arguments misses. -/
inductive ArityBound where
  | atLeast (n : Nat)
  | atMost (n : Nat)
  deriving DecidableEq, Repr

def ArityBound.message : ArityBound → String
  | atLeast n => "at least " ++ toString n
  | atMost n => "at most " ++ toString n

/-- Why a value cannot be computed. -/
inductive Failure where
  | divisionByZero
  | notADate (text : String)
  deriving DecidableEq, Repr

def Failure.message : Failure → String
  | divisionByZero => "Division by zero"
  | notADate text => "Cannot interpret '" ++ text ++ "' as a date"

inductive Error where
  | malformed (position : Nat) (fault : Fault)
  | unknownFunction (name : String)
  | argumentCount (function : String) (bound : ArityBound) (actual : Nat)
  | failed (failure : Failure)
  deriving DecidableEq, Repr

def Error.message : Error → String
  | malformed position fault => "Syntax error at position " ++ toString position ++ ": " ++ fault.message
  | unknownFunction name => "Unknown function: " ++ name
  | argumentCount function bound actual =>
    "Wrong number of arguments for " ++ function ++ ": expected " ++ bound.message ++ ", got " ++
      toString actual
  | failed failure => "Evaluation error: " ++ failure.message

/-- The position of what is wrong with the text, for errors that have one. -/
def Error.position? : Error → Option Nat
  | malformed position _ => some position
  | _ => none

/-- The result of an operation on formulas. -/
abbrev Outcome := Except Error

theorem exists_of_bind_eq_ok {α β : Type} {outcome : Outcome α} {next : α → Outcome β} {b : β}
    (h : (outcome >>= next) = .ok b) : ∃ a, outcome = .ok a ∧ next a = .ok b := by
  cases outcome with
  | error e => cases h
  | ok a => exact ⟨a, rfl, h⟩

end FormRules.Formula
