import CasefileHub.Text.Blank
/-!
# Places in a YAML text

A cursor is the rest of a text with the line and the column where it starts. Line ends are those of
YAML 1.1; all but the separators of Unicode are read as a line feed.
-/

namespace CasefileHub.Yaml

structure Cursor where
  rest : List Char
  line : Nat := 0
  column : Nat := 0
deriving Repr

def isBlank (c : Char) : Bool := c == ' ' || c == '\t'

def isBreak (c : Char) : Bool :=
  c == '\n' || c == '\r' || c.toNat == 0x85 || c.toNat == 0x2028 || c.toNat == 0x2029

/-- A character that may stand in a text. -/
def isAllowed (c : Char) : Bool :=
  let n := c.toNat
  n == 0x09 || n == 0x0A || n == 0x0D || (0x20 ≤ n && n ≤ 0x7E) || n == 0x85 ||
    (0xA0 ≤ n && n ≤ 0xFFFD && n != 0xFEFF) || 0x10000 ≤ n

namespace Cursor

/-- The character at a distance. -/
def at? (c : Cursor) (n : Nat) : Option Char := c.rest[n]?

def peek (c : Cursor) : Option Char := c.rest.head?

def atEnd (c : Cursor) : Bool := c.rest.isEmpty

/-- A space, a tab, a line end or the end at a distance. -/
def gapAt (c : Cursor) (n : Nat) : Bool :=
  match c.at? n with
  | none => true
  | some d => isBlank d || isBreak d

/-- Past one character that is no line end. -/
def skip (c : Cursor) : Cursor := { c with rest := c.rest.drop 1, column := c.column + 1 }

def skipMany (c : Cursor) : Nat → Cursor
  | 0 => c
  | n + 1 => c.skip.skipMany n

/-- Past a line end, with the character it stands for. -/
def newline (c : Cursor) : Char × Cursor :=
  match c.rest with
  | '\r' :: '\n' :: rest => ('\n', ⟨rest, c.line + 1, 0⟩)
  | d :: rest =>
    (if d.toNat == 0x2028 || d.toNat == 0x2029 then d else '\n', ⟨rest, c.line + 1, 0⟩)
  | [] => ('\n', c)

/-- Past all characters of a kind that holds no line end. -/
def skipWhile (p : Char → Bool) (c : Cursor) : Cursor :=
  c.skipMany (c.rest.takeWhile p).length

/-- A marker of documents at the start of a line. -/
def atMarker (c : Cursor) (d : Char) : Bool :=
  c.column == 0 && c.at? 0 == some d && c.at? 1 == some d && c.at? 2 == some d && c.gapAt 3

def atDocumentMarker (c : Cursor) : Bool := c.atMarker '-' || c.atMarker '.'

end Cursor

end CasefileHub.Yaml
