import CasefileHub.Yaml.Scalar
/-!
# Tokens of YAML

The scanner turns indentation into tokens that open and close blocks. A simple key is noticed only
when its colon is reached: its token, and if need be the opening of its mapping, are then put in
front of the tokens that came since.
-/

namespace CasefileHub.Yaml

inductive Token where
  | documentStart | documentEnd
  | directive
  | blockSequenceStart | blockMappingStart | blockEnd
  | flowSequenceStart | flowSequenceEnd | flowMappingStart | flowMappingEnd
  | blockEntry | flowEntry
  | key | value
  | alias (name : String)
  | anchor (name : String)
  | tag (text : String)
  | scalar (text : String) (plain : Bool)
deriving DecidableEq, Repr

/-- A place where a key may have started: the tokens in front of it, where it stands, and whether a
colon must follow because nothing else can start a line of its block. -/
structure SimpleKey where
  tokensBefore : Nat
  line : Nat
  column : Nat
  remaining : Nat
  required : Bool

structure Scanner where
  cursor : Cursor
  tokens : Array Token := #[]
  /-- The indentation of the innermost block, -1 outside of all. -/
  indent : Int := -1
  outer : List Int := []
  /-- The possible keys of the flow collections around, the innermost first, then of the block. -/
  keys : List (Option SimpleKey) := [none]
  keyAllowed : Bool := true

namespace Scanner

def inFlow (s : Scanner) : Bool := s.keys.length > 1

def emit (s : Scanner) (t : Token) : Scanner := { s with tokens := s.tokens.push t }

/-- Closes the blocks that are indented deeper than a column. -/
def closeBlocks (column : Int) : Nat → Scanner → Scanner
  | 0, s => s
  | fuel + 1, s =>
    if s.inFlow || s.indent ≤ column then s
    else
      match s.outer with
      | i :: outer => closeBlocks column fuel { s.emit .blockEnd with indent := i, outer := outer }
      | [] => s

def unroll (s : Scanner) (column : Int) : Scanner := s.closeBlocks column (s.outer.length + 1)

/-- Opens a block at a column that is deeper than the innermost, at a place among the tokens. -/
def roll (s : Scanner) (column : Nat) (place : Nat) (t : Token) : Scanner :=
  if s.inFlow || (column : Int) ≤ s.indent then s
  else
    { s with
      indent := column
      outer := s.indent :: s.outer
      tokens := s.tokens.insertIdxIfInBounds place t }

/-- Gives up a possible key; fails if a colon had to follow. -/
def dropKey (s : Scanner) : Option Scanner :=
  match s.keys with
  | some k :: rest => if k.required then none else some { s with keys := none :: rest }
  | _ => some s

/-- Notes that a key may start here. -/
def saveKey (s : Scanner) : Option Scanner :=
  if !s.keyAllowed then some s
  else do
    let s ← s.dropKey
    let key : SimpleKey :=
      { tokensBefore := s.tokens.size
        line := s.cursor.line
        column := s.cursor.column
        remaining := s.cursor.rest.length
        required := !s.inFlow && s.indent == s.cursor.column }
    return { s with keys := some key :: s.keys.drop 1 }

/-- Possible keys end with their line and after 1024 characters. -/
def dropStale (s : Scanner) : Option Scanner := do
  let keys ← s.keys.mapM fun key =>
    match key with
    | some k =>
      if k.line < s.cursor.line || 1024 + s.cursor.rest.length < k.remaining then
        if k.required then none else some none
      else some (some k)
    | none => some none
  return { s with keys := keys }

/-- Past spaces, comments and line ends. A line end in a block lets a key follow; tabs separate
where no key may start. -/
def skipGaps : Nat → Scanner → Scanner
  | 0, s => s
  | fuel + 1, s =>
    match s.cursor.peek with
    | none => s
    | some d =>
      if d == ' ' || (d == '\t' && (s.inFlow || !s.keyAllowed)) then
        skipGaps fuel { s with cursor := s.cursor.skip }
      else if d == '#' then
        skipGaps fuel { s with cursor := s.cursor.skipWhile (!isBreak ·) }
      else if isBreak d then
        skipGaps fuel
          { s with cursor := s.cursor.newline.2, keyAllowed := s.keyAllowed || !s.inFlow }
      else s

/-! ## Single tokens -/

def step (s : Scanner) (n : Nat) : Scanner := { s with cursor := s.cursor.skipMany n }

def documentMarker (s : Scanner) (t : Token) : Option Scanner := do
  let s ← (s.unroll (-1)).dropKey
  return ({ s with keyAllowed := false }.emit t).step 3

def isNameChar (c : Char) : Bool := c.isAlphanum || c == '_' || c == '-'

/-- A directive line: a version, which must be 1.1 or 1.2, or a tag prefix. -/
def directive (s : Scanner) : Option Scanner := do
  let s ← (s.unroll (-1)).dropKey
  let line := s.cursor.rest.takeWhile (!isBreak ·)
  let words := ((String.ofList (line.takeWhile (· ≠ '#'))).splitOn " ").filter (!·.isEmpty)
  let ok := match words with
    | ["%YAML", v] => v == "1.1" || v == "1.2"
    | ["%TAG", _, _] => true
    | _ => false
  if !ok then none
  return ({ s with keyAllowed := false }.emit .directive).step line.length

def flowStart (s : Scanner) (t : Token) : Option Scanner := do
  let s ← s.saveKey
  return ({ s with keys := none :: s.keys, keyAllowed := true }.emit t).step 1

def flowEnd (s : Scanner) (t : Token) : Option Scanner := do
  let s ← s.dropKey
  let keys := if s.inFlow then s.keys.drop 1 else s.keys
  return ({ s with keys := keys, keyAllowed := false }.emit t).step 1

def flowEntry (s : Scanner) : Option Scanner := do
  let s ← s.dropKey
  return ({ s with keyAllowed := true }.emit .flowEntry).step 1

def blockEntry (s : Scanner) : Option Scanner := do
  if !s.inFlow && !s.keyAllowed then none
  let s := s.roll s.cursor.column s.tokens.size .blockSequenceStart
  let s ← s.dropKey
  return ({ s with keyAllowed := true }.emit .blockEntry).step 1

def explicitKey (s : Scanner) : Option Scanner := do
  if !s.inFlow && !s.keyAllowed then none
  let s := s.roll s.cursor.column s.tokens.size .blockMappingStart
  let s ← s.dropKey
  return ({ s with keyAllowed := !s.inFlow }.emit .key).step 1

def valueMark (s : Scanner) : Option Scanner :=
  match s.keys with
  | some k :: rest =>
    let s := { s with
      keys := none :: rest
      tokens := s.tokens.insertIdxIfInBounds k.tokensBefore .key }
    let s := s.roll k.column k.tokensBefore .blockMappingStart
    some (({ s with keyAllowed := false }.emit .value).step 1)
  | _ =>
    if !s.inFlow && !s.keyAllowed then none
    else
      let s := s.roll s.cursor.column s.tokens.size .blockMappingStart
      some (({ s with keyAllowed := !s.inFlow }.emit .value).step 1)

/-- The name of an anchor or an alias, which something that cannot belong to it must end. -/
def name? (c : Cursor) : Option (String × Cursor) :=
  let name := c.rest.takeWhile isNameChar
  let after := c.skipMany name.length
  let ends := match after.peek with
    | none => true
    | some d => isBlank d || isBreak d || ("?:,]\x7d%@`".toList).contains d
  if name.isEmpty || !ends then none else some (String.ofList name, after)

def anchorOrAlias (s : Scanner) (make : String → Token) : Option Scanner := do
  let s ← s.saveKey
  let (name, c) ← name? s.cursor.skip
  return { s with keyAllowed := false, cursor := c }.emit (make name)

/-- A tag up to a gap, or in flow collections a comma. -/
def tag (s : Scanner) : Option Scanner := do
  let s ← s.saveKey
  let text := s.cursor.rest.takeWhile fun d =>
    !isBlank d && !isBreak d && !(s.inFlow && isFlowMark d)
  return ({ s with keyAllowed := false }.emit (.tag (String.ofList text))).step text.length

def blockScalar (s : Scanner) (literal : Bool) : Option Scanner := do
  let s ← s.dropKey
  let (text, c) ← block? literal s.indent s.cursor
  return { s with keyAllowed := true, cursor := c }.emit (.scalar text false)

def quotedScalar (s : Scanner) (quote : Char) : Option Scanner := do
  let s ← s.saveKey
  let (text, c) ← quoted? quote s.cursor
  return { s with keyAllowed := false, cursor := c }.emit (.scalar text false)

def plainScalar (s : Scanner) : Option Scanner := do
  let s ← s.saveKey
  let (text, c, broken) ← plain? s.inFlow (s.indent + 1).toNat s.cursor
  return { s with keyAllowed := broken, cursor := c }.emit (.scalar text true)

/-- Whether a plain scalar may start with a character. -/
def startsPlain (s : Scanner) (d : Char) : Bool :=
  (!(isBlank d || isBreak d) && !("-?:,[]\x7b\x7d#&*!|>'\"%@`".toList.contains d)) ||
    (d == '-' && !(s.cursor.at? 1).any isBlank) ||
    (!s.inFlow && (d == '?' || d == ':') && !s.cursor.gapAt 1)

/-- The token that starts with a character. -/
def scanToken (s : Scanner) (d : Char) : Option Scanner :=
  let gap := s.cursor.gapAt 1
  if s.cursor.column == 0 && d == '%' then s.directive
  else if s.cursor.atMarker '-' then s.documentMarker .documentStart
  else if s.cursor.atMarker '.' then s.documentMarker .documentEnd
  else if d == '[' then s.flowStart .flowSequenceStart
  else if d == '\x7b' then s.flowStart .flowMappingStart
  else if d == ']' then s.flowEnd .flowSequenceEnd
  else if d == '\x7d' then s.flowEnd .flowMappingEnd
  else if d == ',' then s.flowEntry
  else if d == '-' && gap then s.blockEntry
  else if d == '?' && (s.inFlow || gap) then s.explicitKey
  else if d == ':' && (s.inFlow || gap) then s.valueMark
  else if d == '*' then s.anchorOrAlias .alias
  else if d == '&' then s.anchorOrAlias .anchor
  else if d == '!' then s.tag
  else if d == '|' && !s.inFlow then s.blockScalar true
  else if d == '>' && !s.inFlow then s.blockScalar false
  else if d == '\'' || d == '"' then s.quotedScalar d
  else if s.startsPlain d then s.plainScalar
  else none

/-- All tokens up to the end of the text. -/
def run : Nat → Scanner → Option (List Token)
  | 0, _ => none
  | fuel + 1, s => do
    let s ← (skipGaps (s.cursor.rest.length + 1) s).dropStale
    let s := s.unroll s.cursor.column
    match s.cursor.peek with
    | none =>
      let s ← (s.unroll (-1)).dropKey
      return s.tokens.toList
    | some d => run fuel (← s.scanToken d)

end Scanner

/-- The tokens of a text, if it has any reading. A byte order mark in front does not count. -/
def Token.scan (text : String) : Option (List Token) :=
  let cs := match text.toList with
    | c :: rest => if c.toNat == 0xFEFF then rest else c :: rest
    | [] => []
  if cs.all isAllowed then Scanner.run (cs.length + 1) { cursor := { rest := cs } } else none

end CasefileHub.Yaml
