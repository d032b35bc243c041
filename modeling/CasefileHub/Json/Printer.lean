import CasefileHub.Json.Basic
import CasefileHub.Binary64.Decimal
/-!
# Compact JSON text

No space between tokens; a text escapes the quote, the backslash and the control characters, and
nothing else. Members are written in the order in which the value lists them.
-/

namespace CasefileHub

def Number.text : Number → String
  | .int n => if n < 0 then "-" ++ Nat.repr n.natAbs else Nat.repr n.natAbs
  | .real x => x.text

namespace Json

/-- A character as it stands between the quotes of a text. -/
def escapeChar (c : Char) : List Char :=
  if c = '"' then ['\\', '"']
  else if c = '\\' then ['\\', '\\']
  else if c = '\n' then ['\\', 'n']
  else if c = '\r' then ['\\', 'r']
  else if c = '\t' then ['\\', 't']
  else if c.toNat = 8 then ['\\', 'b']
  else if c.toNat = 12 then ['\\', 'f']
  else if c.toNat < 0x20 then
    ['\\', 'u', '0', '0', Nat.digitChar (c.toNat / 16), Nat.digitChar (c.toNat % 16)]
  else [c]

def quoted (s : String) : String := String.ofList ('"' :: (s.toList.flatMap escapeChar ++ ['"']))

mutual

def print : Json → String
  | .null => "null"
  | .bool true => "true"
  | .bool false => "false"
  | .num n => n.text
  | .str s => quoted s
  | .arr items => "[" ++ printItems items ++ "]"
  | .obj members => "\x7b" ++ printMembers members ++ "\x7d"
termination_by structural v => v

def printItems : List Json → String
  | [] => ""
  | v :: rest => if rest.isEmpty then print v else print v ++ "," ++ printItems rest
termination_by structural l => l

def printMembers : List (String × Json) → String
  | [] => ""
  | m :: rest => if rest.isEmpty then printMember m else printMember m ++ "," ++ printMembers rest
termination_by structural l => l

def printMember : String × Json → String
  | (name, v) => quoted name ++ ":" ++ print v
termination_by structural m => m

end

end Json

end CasefileHub
