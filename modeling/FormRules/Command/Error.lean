import FormRules.Formula.Error
import FormRules.Text.Quoted

/-!
# Errors of commands

A command fails because a file cannot be read or understood, or because of a formula. `CommandError.report` is
what the program prints: what it could not do and, below, the cause.
-/

namespace FormRules

/-- Why a file cannot be read. -/
inductive ReadError where
  | notFound
  | denied
  | directory
  /-- The path leads on behind a file. -/
  | notDirectory
  | nameTooLong
  | notText
  | failed (reason : String)
  deriving DecidableEq, Repr

def ReadError.message : ReadError → String
  | notFound => "No such file or directory (os error 2)"
  | denied => "Permission denied (os error 13)"
  | directory => "Is a directory (os error 21)"
  | notDirectory => "Not a directory (os error 20)"
  | nameTooLong => "File name too long (os error 36)"
  | notText => "stream did not contain valid UTF-8"
  | failed reason => reason

inductive CommandError where
  | unreadable (path : String) (cause : ReadError)
  /-- The file is no document of what is to be read. -/
  | unparsable (path : String)
  | notExpanded (cause : Formula.Error)
  | notEvaluated (formula : String) (cause : Formula.Error)
  | invalidFormula (formula : String) (cause : Formula.Error)
  /-- So many of the checked formulas cannot be parsed. -/
  | malformed (count total : Nat)
  deriving DecidableEq, Repr

namespace CommandError

def message : CommandError → String
  | unreadable path _ => "Failed to read '" ++ path ++ "'"
  | unparsable path => "Failed to parse '" ++ path ++ "'"
  | notExpanded _ => "Failed to expand macros"
  | notEvaluated formula _ => "Failed to evaluate " ++ Text.quoted formula
  | invalidFormula formula _ => "Invalid formula " ++ Text.quoted formula
  | malformed count total => toString count ++ " of " ++ toString total ++ " formulas failed to parse"

def cause? : CommandError → Option String
  | unreadable _ cause => some cause.message
  | notExpanded cause => some cause.message
  | notEvaluated _ cause => some cause.message
  | invalidFormula _ cause => some cause.message
  | unparsable _ => none
  | malformed _ _ => none

/-- Indents every line by four blanks. -/
def indent (s : String) : String :=
  "    " ++ String.ofList (s.toList.flatMap fun c => if c = '\n' then '\n' :: List.replicate 4 ' ' else [c])

/-- The text that tells of an error. -/
def report (e : CommandError) : String :=
  "Error: " ++ e.message ++ "\n" ++
    match e.cause? with
    | some cause => "\nCaused by:\n" ++ indent cause ++ "\n"
    | none => ""

end CommandError

end FormRules
