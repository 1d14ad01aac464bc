import FormRules.Calendar.Instant

/-!
# Commands

What the program can be asked to do:

* `eval` prints the value of a formula on form data;
* `check` tells of each formula whether it can be parsed;
* `deps` lists the fields that a formula refers to;
* `calc` applies a change of a field to a saved registry;
* `flow` shows the sections of a form and the progress through them.

The form data and the fields are read from files, and are empty if no file is given.
-/

namespace FormRules

/-- The files with the form data and the fields. -/
structure FormFiles where
  data? : Option String := none
  fields? : Option String := none
  deriving DecidableEq, Repr

inductive Command where
  | evaluate (formula : String) (form : FormFiles) (now? : Option Instant) (expand : Bool)
  | check (formulas : List String)
  | references (formula : String)
  | change (configuration changed : String) (form : FormFiles) (json : Bool)
  | overview (sections : String) (form : FormFiles) (state? : Option String) (json : Bool)
  deriving DecidableEq, Repr

def FormFiles.paths (form : FormFiles) : List String := form.data?.toList ++ form.fields?.toList

/-- The files that a command reads. -/
def Command.paths : Command → List String
  | evaluate _ form _ _ => form.paths
  | check _ => []
  | references _ => []
  | change configuration _ form _ => configuration :: form.paths
  | overview sections form state? _ => sections :: form.paths ++ state?.toList

end FormRules
