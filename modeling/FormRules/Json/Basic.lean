/-!
# Documents of data

A JSON document as it is written: numbers keep their text, and the entries of an object their order and
repetitions. A string may hold half of a surrogate pair, which is no text; it is then `none`.

* `compact` writes a document without blanks;
* `pretty` writes each entry on a line of its own, indented by two blanks for each level.
-/

namespace FormRules

inductive Json where
  | null
  | bool (b : Bool)
  | number (text : String)
  | string (text? : Option String)
  | array (items : List Json)
  | object (entries : List (Option String × Json))

namespace Json

instance : Inhabited Json := ⟨.null⟩

/-- A string of a text. -/
def text (s : String) : Json := .string (some s)

def int (n : Int) : Json := .number (toString n)

def list {α : Type} (f : α → Json) (items : List α) : Json := .array (items.map f)

/-- An object with the given entries, of which those without a value are left out. -/
def record (entries : List (String × Option Json)) : Json :=
  .object (entries.filterMap fun (key, value) => value.map (some key, ·))

/-- A digit of a code point in base sixteen. -/
def hexDigit (n : Nat) : Char := Nat.digitChar (n % 16)

/-- How a character is written in a string. -/
def escape (c : Char) : List Char :=
  if c = '"' then ['\\', '"']
  else if c = '\\' then ['\\', '\\']
  else if c = '\n' then ['\\', 'n']
  else if c = '\r' then ['\\', 'r']
  else if c = '\t' then ['\\', 't']
  else if c = '\x08' then ['\\', 'b']
  else if c = '\x0c' then ['\\', 'f']
  else if c.toNat < 0x20 then ['\\', 'u', '0', '0', hexDigit (c.toNat / 16), hexDigit c.toNat]
  else [c]

/-- A string with its quotes. One that is no text is written empty. -/
def quote (s : Option String) : List Char := '"' :: ((s.getD "").toList.flatMap escape ++ ['"'])

mutual

def compactChars : Json → List Char
  | null => "null".toList
  | bool b => if b then "true".toList else "false".toList
  | number s => s.toList
  | string s => quote s
  | array [] => ['[', ']']
  | array (item :: items) => '[' :: (item.compactChars ++ compactItems items)
  | object [] => ['\x7b', '\x7d']
  | object ((key, value) :: entries) =>
    '\x7b' :: (quote key ++ ':' :: (value.compactChars ++ compactEntries entries))

/-- The items after the first one, and the closing bracket. -/
def compactItems : List Json → List Char
  | [] => [']']
  | item :: items => ',' :: (item.compactChars ++ compactItems items)

/-- The entries after the first one, and the closing brace. -/
def compactEntries : List (Option String × Json) → List Char
  | [] => ['\x7d']
  | (key, value) :: entries => ',' :: (quote key ++ ':' :: (value.compactChars ++ compactEntries entries))

end

/-- The start of a line at some level. -/
def newLine (level : Nat) : List Char := '\n' :: List.replicate (2 * level) ' '

mutual

def prettyChars (level : Nat) : Json → List Char
  | null => "null".toList
  | bool b => if b then "true".toList else "false".toList
  | number s => s.toList
  | string s => quote s
  | array [] => ['[', ']']
  | array (item :: items) =>
    '[' :: (newLine (level + 1) ++ item.prettyChars (level + 1) ++ prettyItems level items)
  | object [] => ['\x7b', '\x7d']
  | object ((key, value) :: entries) =>
    '\x7b' :: (newLine (level + 1) ++ quote key ++ ':' :: ' ' :: (value.prettyChars (level + 1) ++
      prettyEntries level entries))

/-- The items after the first one, and the closing bracket. -/
def prettyItems (level : Nat) : List Json → List Char
  | [] => newLine level ++ [']']
  | item :: items => ',' :: (newLine (level + 1) ++ item.prettyChars (level + 1) ++ prettyItems level items)

/-- The entries after the first one, and the closing brace. -/
def prettyEntries (level : Nat) : List (Option String × Json) → List Char
  | [] => newLine level ++ ['\x7d']
  | (key, value) :: entries =>
    ',' :: (newLine (level + 1) ++ quote key ++ ':' :: ' ' :: (value.prettyChars (level + 1) ++
      prettyEntries level entries))

end

/-- The document without blanks. -/
def compact (j : Json) : String := String.ofList j.compactChars

/-- The document with indentation. -/
def pretty (j : Json) : String := String.ofList (j.prettyChars 0)

end Json

end FormRules
