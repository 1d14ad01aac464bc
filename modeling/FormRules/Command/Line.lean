import FormRules.Calendar.Reader
import FormRules.Command.Basic

/-!
# The command line

`Command.ofLine` reads the arguments of the program. An option is given by its name, as in `--data FILE` or
`--data=FILE`, or by its letter, as in `-d FILE`, `-dFILE` or `-d=FILE`; letters may be joined. The first
argument that is no option is the command. Its options may stand anywhere between it and the argument `--`,
after which all arguments are taken as they are; in front of it only `--verbose` may stand.
-/

namespace FormRules

inductive Switch where
  | verbose
  | data
  | fields
  | now
  | expand
  | changed
  | json
  | state
  deriving DecidableEq, Repr

namespace Switch

def all : List Switch := [verbose, data, fields, now, expand, changed, json, state]

def name : Switch → String
  | verbose => "verbose"
  | data => "data"
  | fields => "fields"
  | now => "now"
  | expand => "expand"
  | changed => "changed"
  | json => "json"
  | state => "state"

def letter? : Switch → Option Char
  | verbose => some 'v'
  | data => some 'd'
  | fields => some 'f'
  | changed => some 'c'
  | state => some 's'
  | now | expand | json => none

def takesValue : Switch → Bool
  | verbose | expand | json => false
  | data | fields | now | changed | state => true

def ofName? (name : String) : Option Switch := all.find? (·.name = name)

def ofLetter? (c : Char) : Option Switch := all.find? (·.letter? = some c)

end Switch

/-- What is wrong with a command line. -/
inductive UsageError where
  | missingCommand
  | unknownCommand (name : String)
  | unknownOption (text : String)
  | refusedOption (option : Switch)
  | repeatedOption (option : Switch)
  | missingValue (option : Switch)
  | refusedValue (option : Switch)
  | badInstant (text : String)
  | missing (argument : String)
  | tooMany (argument : String)
  deriving DecidableEq, Repr

def UsageError.message : UsageError → String
  | missingCommand => "a command is needed: eval, check, deps, calc or flow"
  | unknownCommand name => "unknown command '" ++ name ++ "'"
  | unknownOption text => "unknown option '" ++ text ++ "'"
  | refusedOption option => "the command has no option '--" ++ option.name ++ "'"
  | repeatedOption option => "the option '--" ++ option.name ++ "' is given twice"
  | missingValue option => "the option '--" ++ option.name ++ "' needs a value"
  | refusedValue option => "the option '--" ++ option.name ++ "' has no value"
  | badInstant text => "'" ++ text ++ "' is not an instant"
  | missing argument => "the argument " ++ argument ++ " is missing"
  | tooMany argument => "unexpected argument '" ++ argument ++ "'"

/-- The options of a command line with their values, and the other arguments. -/
structure Arguments where
  /-- The options in front of the first other argument. -/
  leading : List (Switch × Option String) := []
  options : List (Switch × Option String) := []
  others : List String := []
  deriving DecidableEq, Repr

namespace Arguments

/-- The options that a single argument gives, and the one whose value is to follow. -/
structure Given where
  options : List (Switch × Option String)
  pending? : Option Switch := none

/-- Reads options given by their letters. -/
def ofLetters : List Char → Except UsageError Given
  | [] => .ok ⟨[], none⟩
  | c :: rest =>
    match Switch.ofLetter? c with
    | none => .error (.unknownOption ("-" ++ c.toString))
    | some option =>
      if option.takesValue then
        match rest with
        | [] => .ok ⟨[], some option⟩
        | '=' :: value => .ok ⟨[(option, some (String.ofList value))], none⟩
        | value => .ok ⟨[(option, some (String.ofList value))], none⟩
      else do
        let given ← ofLetters rest
        return { given with options := (option, none) :: given.options }

/-- Reads an option given by its name. -/
def ofName (cs : List Char) : Except UsageError Given :=
  let name := String.ofList (cs.takeWhile (· ≠ '='))
  match Switch.ofName? name, cs.dropWhile (· ≠ '=') with
  | none, _ => .error (.unknownOption ("--" ++ name))
  | some option, [] => .ok (if option.takesValue then ⟨[], some option⟩ else ⟨[(option, none)], none⟩)
  | some option, _ :: value =>
    if option.takesValue then .ok ⟨[(option, some (String.ofList value))], none⟩
    else .error (.refusedValue option)

/-- The options that an argument gives, if it is one that gives options. -/
def given? (arg : String) : Option (Except UsageError Given) :=
  match arg.toList with
  | '-' :: '-' :: name => some (ofName name)
  | '-' :: c :: letters => some (ofLetters (c :: letters))
  | _ => none

/-- Takes the arguments of a line apart. -/
def ofLine : List String → Except UsageError Arguments
  | [] => .ok {}
  | arg :: rest =>
    if arg = "--" then .ok { others := rest }
    else match given? arg with
      | none => do
        let args ← ofLine rest
        return { options := args.leading ++ args.options, others := arg :: args.others }
      | some given => do
        let given ← given
        match given.pending?, rest with
        | none, rest =>
          let args ← ofLine rest
          return { args with leading := given.options ++ args.leading }
        | some option, [] => .error (.missingValue option)
        | some option, value :: rest =>
          if (given? value).isSome then .error (.missingValue option)
          else
            let args ← ofLine rest
            return { args with leading := given.options ++ (option, some value) :: args.leading }

def has (args : Arguments) (option : Switch) : Bool := args.options.any (·.1 = option)

def value? (args : Arguments) (option : Switch) : Option String := (args.options.lookup option).join

/-- Checks that of some options only `--verbose` and the allowed ones are given, none of them twice. -/
def allowOnly (options : List (Switch × Option String)) (allowed : List Switch) : Except UsageError Unit :=
  match options.find? fun (option, _) => !(Switch.verbose :: allowed).contains option with
  | some (option, _) => .error (.refusedOption option)
  | none =>
    match options.find? fun (option, _) => 1 < options.countP (·.1 = option) with
    | some (option, _) => .error (.repeatedOption option)
    | none => .ok ()

/-- Checks the options of a command and those in front of it. -/
def allow (args : Arguments) (allowed : List Switch) : Except UsageError Unit := do
  allowOnly args.leading []
  allowOnly args.options allowed

/-- The value of an option that is a path. -/
def path? (args : Arguments) (option : Switch) : Except UsageError (Option String) :=
  match args.value? option with
  | some path => if path.isEmpty then .error (.missingValue option) else .ok (some path)
  | none => .ok none

/-- The value of an option that is an instant. -/
def instant? (args : Arguments) (option : Switch) : Except UsageError (Option Instant) :=
  match args.value? option with
  | none => .ok none
  | some text =>
    match Calendar.readLooseInstant? text.toList with
    | some t => .ok (some t)
    | none => .error (.badInstant text)

def formFiles (args : Arguments) : Except UsageError FormFiles := do
  return ⟨← args.path? .data, ← args.path? .fields⟩

/-- The only one of some arguments. -/
def sole (argument : String) : List String → Except UsageError String
  | [] => .error (.missing argument)
  | [value] => .ok value
  | _ :: other :: _ => .error (.tooMany other)

/-- The only one of some arguments, which is a path. -/
def solePath (argument : String) (others : List String) : Except UsageError String := do
  let path ← sole argument others
  if path.isEmpty then .error (.missing argument) else return path

end Arguments

namespace Command

/-- The command that some arguments ask for. -/
def ofArguments (args : Arguments) : Except UsageError Command :=
  match args.others with
  | [] => .error .missingCommand
  | name :: rest =>
    if name = "eval" then do
      args.allow [.data, .fields, .now, .expand]
      let formula ← Arguments.sole "FORMULA" rest
      return evaluate formula (← args.formFiles) (← args.instant? .now) (args.has .expand)
    else if name = "check" then do
      args.allow []
      if rest.isEmpty then .error (.missing "FORMULA") else return check rest
    else if name = "deps" then do
      args.allow []
      return references (← Arguments.sole "FORMULA" rest)
    else if name = "calc" then do
      args.allow [.changed, .data, .fields, .json]
      let configuration ← Arguments.solePath "CONFIGURATION" rest
      let some changed := args.value? .changed | .error (.missing "--changed")
      return change configuration changed (← args.formFiles) (args.has .json)
    else if name = "flow" then do
      args.allow [.data, .fields, .state, .json]
      let sections ← Arguments.solePath "SECTIONS" rest
      return overview sections (← args.formFiles) (← args.path? .state) (args.has .json)
    else .error (.unknownCommand name)

/-- The command that the arguments of a line ask for. -/
def ofLine (line : List String) : Except UsageError Command := Arguments.ofLine line >>= ofArguments

end Command

end FormRules
