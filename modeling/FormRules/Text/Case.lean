import FormRules.Text.CaseTable
import FormRules.Text.CodePoint

/-!
# Upper and lower case

`upper` and `lower` apply the full Unicode case mappings: a character may become several (`ß` becomes `SS`),
and a capital sigma becomes `ς` at the end of a word and `σ` elsewhere.
-/

namespace FormRules.Text

private def mapByRuns (runs : List CaseRun) (c : Char) : Char :=
  match runs.findSome? (·.map? c.toNat) with
  | some code => Char.ofNat code
  | none => c

/-- The upper case of one character. -/
def upperChar (c : Char) : List Char :=
  match upperExpansions.lookup c.toNat with
  | some codes => codes.map Char.ofNat
  | none => [mapByRuns upperRuns c]

theorem upperChar_eq (c : Char) : upperChar c = (upperExpansions.lookup c.toNat).elim
    [(upperRuns.findSome? (·.map? c.toNat)).elim c Char.ofNat] (List.map Char.ofNat) := by
  unfold upperChar mapByRuns
  cases upperExpansions.lookup c.toNat with
  | some codes => rfl
  | none => cases upperRuns.findSome? (·.map? c.toNat) <;> rfl

def upperChars (cs : List Char) : List Char := cs.flatMap upperChar

def upper (s : String) : String := String.ofList (upperChars s.toList)

def isCased (c : Char) : Bool := inIntervals c.toNat casedIntervals

def isCaseIgnorable (c : Char) : Bool := inIntervals c.toNat caseIgnorableIntervals

/-- Whether the first character that is not ignored for case is a cased one. -/
def startsCased (cs : List Char) : Bool :=
  match cs.dropWhile isCaseIgnorable with
  | c :: _ => isCased c
  | [] => false

/-- The lower case of one character between the text `before` it, read backwards, and the text `after` it. -/
def lowerCharIn (before : List Char) (c : Char) (after : List Char) : List Char :=
  if c = 'Σ' then if startsCased before && !startsCased after then ['ς'] else ['σ']
  else if c = 'İ' then ['i', '\u0307']
  else [mapByRuns lowerRuns c]

/-- The lower case of `cs`, which stands after the text `before`, read backwards. -/
def lowerCharsAfter (before : List Char) : List Char → List Char
  | [] => []
  | c :: rest => lowerCharIn before c rest ++ lowerCharsAfter (c :: before) rest

def lower (s : String) : String := String.ofList (lowerCharsAfter [] s.toList)

end FormRules.Text
