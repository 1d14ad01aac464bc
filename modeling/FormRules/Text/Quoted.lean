import FormRules.Text.Visible

/-!
# Quoted texts

`quoted` shows a text in quotes on one line. Quotes, backslashes, line ends, tabs and the null character are
written after a backslash, and every other character that is not visible by its code point in base sixteen.
-/

namespace FormRules.Text

/-- How a character is shown in quotes. -/
def quoteChar (c : Char) : List Char :=
  if c = '"' then ['\\', '"']
  else if c = '\\' then ['\\', '\\']
  else if c = '\n' then ['\\', 'n']
  else if c = '\r' then ['\\', 'r']
  else if c = '\t' then ['\\', 't']
  else if c = '\x00' then ['\\', '0']
  else if isVisible c then [c]
  else ['\\', 'u', '\x7b'] ++ Nat.toDigits 16 c.toNat ++ ['\x7d']

def quoted (s : String) : String := String.ofList ('"' :: (s.toList.flatMap quoteChar ++ ['"']))

end FormRules.Text
