import CasefileHub.Text.Category
/-!
# Texts in double quotes

`quote` shows a text so that every character of it can be seen: quotes and backslashes are escaped,
line ends and tabs have their short names, and what cannot be shown stands as its code point.
-/

namespace CasefileHub.Text

/-- The digits of a code point between braces, after a backslash and a u. -/
def codePointEscape (c : Char) : List Char :=
  '\\' :: 'u' :: '\x7b' :: (Nat.toDigits 16 c.toNat ++ ['\x7d'])

def quoteChar (c : Char) : List Char :=
  if c = '"' then ['\\', '"']
  else if c = '\\' then ['\\', '\\']
  else if c = '\n' then ['\\', 'n']
  else if c = '\r' then ['\\', 'r']
  else if c = '\t' then ['\\', 't']
  else if c.toNat = 0 then ['\\', '0']
  else if 0x20 ≤ c.toNat ∧ c.toNat < 0x7F then [c]
  else if isExtender c || !isPrintable c then codePointEscape c
  else [c]

def quote (s : String) : String := String.ofList ('"' :: (s.toList.flatMap quoteChar ++ ['"']))

end CasefileHub.Text
