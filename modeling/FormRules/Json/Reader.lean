import FormRules.Json.Basic

/-!
# Reading documents

`Json.read?` takes a text that is one document, with blanks, tabs and line ends around its parts. Readers of
parts take what they read from the front and give what is left.
-/

namespace FormRules.Json

def isSpace (c : Char) : Bool := c = ' ' || c = '\n' || c = '\r' || c = '\t'

def skipSpaces (cs : List Char) : List Char := cs.dropWhile isSpace

/-- The value of a digit in base sixteen. -/
def hexValue? (c : Char) : Option Nat :=
  if '0' ≤ c ∧ c ≤ '9' then some (c.toNat - '0'.toNat)
  else if 'a' ≤ c ∧ c ≤ 'f' then some (c.toNat - 'a'.toNat + 10)
  else if 'A' ≤ c ∧ c ≤ 'F' then some (c.toNat - 'A'.toNat + 10)
  else none

/-- The value of four digits in base sixteen. -/
def hexUnit? (a b c d : Char) : Option Nat := do
  return (← hexValue? a) * 4096 + (← hexValue? b) * 256 + (← hexValue? c) * 16 + (← hexValue? d)

/-- What a character stands for after a backslash. -/
def unescape? (c : Char) : Option Char :=
  match c with
  | '"' => some '"'
  | '\\' => some '\\'
  | '/' => some '/'
  | 'b' => some '\x08'
  | 'f' => some '\x0c'
  | 'n' => some '\n'
  | 'r' => some '\r'
  | 't' => some '\t'
  | _ => none

def isHighSurrogate (unit : Nat) : Bool := 0xD800 ≤ unit && unit < 0xDC00

def isLowSurrogate (unit : Nat) : Bool := 0xDC00 ≤ unit && unit < 0xE000

/-- The character of a surrogate pair. -/
def pairChar (high low : Nat) : Char := Char.ofNat (0x10000 + (high - 0xD800) * 0x400 + (low - 0xDC00))

/-- Reads a string behind its opening quote. The content is `none` if half of a surrogate pair stands in it
alone. -/
def readString : List Char → Option (Option (List Char) × List Char)
  | [] => none
  | '"' :: rest => some (some [], rest)
  | '\\' :: 'u' :: a :: b :: c :: d :: '\\' :: 'u' :: a' :: b' :: c' :: d' :: rest => do
    let unit ← hexUnit? a b c d
    if isHighSurrogate unit then
      let low ← hexUnit? a' b' c' d'
      let (content, after) ← readString rest
      return (if isLowSurrogate low then content.map (pairChar unit low :: ·) else none, after)
    else
      let (content, after) ← readString ('\\' :: 'u' :: a' :: b' :: c' :: d' :: rest)
      return (if isLowSurrogate unit then none else content.map (Char.ofNat unit :: ·), after)
  | '\\' :: 'u' :: a :: b :: c :: d :: rest => do
    let unit ← hexUnit? a b c d
    let (content, after) ← readString rest
    let isHalf := isHighSurrogate unit || isLowSurrogate unit
    return (if isHalf then none else content.map (Char.ofNat unit :: ·), after)
  | '\\' :: e :: rest => do
    let c ← unescape? e
    let (content, after) ← readString rest
    return (content.map (c :: ·), after)
  | c :: rest => do
    if c = '\\' ∨ c.toNat < 0x20 then none
    let (content, after) ← readString rest
    return (content.map (c :: ·), after)

/-- Reads one or more digits. -/
def readDigits (cs : List Char) : Option (List Char × List Char) :=
  match cs.takeWhile Char.isDigit with
  | [] => none
  | digits => some (digits, cs.dropWhile Char.isDigit)

/-- Reads the whole part of a number, which has no zeros in front. -/
def readWhole (cs : List Char) : Option (List Char × List Char) :=
  match cs with
  | '0' :: rest => some (['0'], rest)
  | _ => readDigits cs

/-- Reads the fraction of a number, if there is one. -/
def readFraction (cs : List Char) : Option (List Char × List Char) :=
  match cs with
  | '.' :: rest => (readDigits rest).map fun (digits, rest) => ('.' :: digits, rest)
  | _ => some ([], cs)

/-- Reads the exponent of a number, if there is one. -/
def readExponent (cs : List Char) : Option (List Char × List Char) :=
  match cs with
  | e :: rest =>
    if e = 'e' ∨ e = 'E' then
      match rest with
      | s :: digits =>
        if s = '+' ∨ s = '-' then (readDigits digits).map fun (digits, rest) => (e :: s :: digits, rest)
        else (readDigits rest).map fun (digits, rest) => (e :: digits, rest)
      | [] => none
    else some ([], cs)
  | [] => some ([], [])

/-- Reads the text of a number. -/
def readNumber (cs : List Char) : Option (List Char × List Char) := do
  let (sign, rest) : List Char × List Char := match cs with
    | '-' :: rest => (['-'], rest)
    | _ => ([], cs)
  let (whole, rest) ← readWhole rest
  let (fraction, rest) ← readFraction rest
  let (exponent, rest) ← readExponent rest
  return (sign ++ whole ++ fraction ++ exponent, rest)

/-- Reads a string as the value or key that it is. -/
def readText (cs : List Char) : Option (Option String × List Char) :=
  (readString cs).map fun (content, rest) => (content.map String.ofList, rest)

mutual

/-- Reads a value; `steps` bounds the number of values, items and entries on the way to the innermost one. -/
def readValue : (steps : Nat) → List Char → Option (Json × List Char)
  | 0, _ => none
  | steps + 1, cs =>
    match skipSpaces cs with
    | 'n' :: 'u' :: 'l' :: 'l' :: rest => some (.null, rest)
    | 't' :: 'r' :: 'u' :: 'e' :: rest => some (.bool true, rest)
    | 'f' :: 'a' :: 'l' :: 's' :: 'e' :: rest => some (.bool false, rest)
    | '"' :: rest => (readText rest).map fun (s, rest) => (.string s, rest)
    | '[' :: rest =>
      match skipSpaces rest with
      | ']' :: rest => some (.array [], rest)
      | _ => (readItems steps rest).map fun (items, rest) => (.array items, rest)
    | '\x7b' :: rest =>
      match skipSpaces rest with
      | '\x7d' :: rest => some (.object [], rest)
      | _ => (readEntries steps rest).map fun (entries, rest) => (.object entries, rest)
    | cs => (readNumber cs).map fun (s, rest) => (.number (String.ofList s), rest)

/-- Reads the items of an array and its closing bracket. -/
def readItems : (steps : Nat) → List Char → Option (List Json × List Char)
  | 0, _ => none
  | steps + 1, cs => do
    let (item, rest) ← readValue steps cs
    match skipSpaces rest with
    | ',' :: rest =>
      let (items, rest) ← readItems steps rest
      return (item :: items, rest)
    | ']' :: rest => return ([item], rest)
    | _ => none

/-- Reads the entries of an object and its closing brace. -/
def readEntries : (steps : Nat) → List Char → Option (List (Option String × Json) × List Char)
  | 0, _ => none
  | steps + 1, cs =>
    match skipSpaces cs with
    | '"' :: rest => do
      let (key, rest) ← readText rest
      match skipSpaces rest with
      | ':' :: rest => do
        let (value, rest) ← readValue steps rest
        match skipSpaces rest with
        | ',' :: rest =>
          let (entries, rest) ← readEntries steps rest
          return ((key, value) :: entries, rest)
        | '\x7d' :: rest => return ([(key, value)], rest)
        | _ => none
      | _ => none
    | _ => none

end

/-- Reads a text that is one document. -/
def read? (s : String) : Option Json := do
  let (j, rest) ← readValue (s.toList.length + 1) s.toList
  if (skipSpaces rest).isEmpty then some j else none

end FormRules.Json
