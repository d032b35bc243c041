import CasefileHub.Yaml.Cursor
/-!
# Scalars of YAML

Quoted, plain and block scalars. A single line end inside one becomes a space, further ones stay;
a block scalar marked with a bar keeps every line end.
-/

namespace CasefileHub.Yaml

/-- White space inside a scalar that has not been taken into its text yet: blanks on one line, or
line ends of which the first is told apart. An escaped line end leaves no character. Characters come
last first. -/
structure Gap where
  blanks : List Char := []
  broken : Bool := false
  first : List Char := []
  more : List Char := []

/-- The text of a gap between two parts of a scalar. -/
def Gap.folded (g : Gap) : List Char :=
  if !g.broken then g.blanks
  else if g.first = ['\n'] then if g.more.isEmpty then [' '] else g.more
  else g.more ++ g.first

def Gap.isEmpty (g : Gap) : Bool := g.blanks.isEmpty && !g.broken

/-- A gap with one more line end. -/
def Gap.break (g : Gap) (e : Char) : Gap :=
  if g.broken then { g with more := e :: g.more } else { broken := true, first := [e] }

/-- A gap with one more blank, which counts on the first line only. -/
def Gap.blank (g : Gap) (d : Char) : Gap :=
  if g.broken then g else { g with blanks := d :: g.blanks }

/-! ## Quoted scalars -/

/-- The escapes of one character. -/
def escape? : Char → Option Char
  | '0' => some (Char.ofNat 0)
  | 'a' => some (Char.ofNat 7)
  | 'b' => some (Char.ofNat 8)
  | 't' => some '\t'
  | '\t' => some '\t'
  | 'n' => some '\n'
  | 'v' => some (Char.ofNat 11)
  | 'f' => some (Char.ofNat 12)
  | 'r' => some '\r'
  | 'e' => some (Char.ofNat 27)
  | ' ' => some ' '
  | '"' => some '"'
  | '/' => some '/'
  | '\\' => some '\\'
  | 'N' => some (Char.ofNat 0x85)
  | '_' => some (Char.ofNat 0xA0)
  | 'L' => some (Char.ofNat 0x2028)
  | 'P' => some (Char.ofNat 0x2029)
  | _ => none

def hexLength? : Char → Option Nat
  | 'x' => some 2
  | 'u' => some 4
  | 'U' => some 8
  | _ => none

def hexValue? (c : Char) : Option Nat :=
  if c.isDigit then some (c.toNat - '0'.toNat)
  else if 'a' ≤ c ∧ c ≤ 'f' then some (c.toNat - 'a'.toNat + 10)
  else if 'A' ≤ c ∧ c ≤ 'F' then some (c.toNat - 'A'.toNat + 10)
  else none

/-- The character of so many hexadecimal digits. -/
def codePoint? (count : Nat) (cs : List Char) : Option Char := do
  if cs.length < count then none
  let values ← (cs.take count).mapM hexValue?
  let n := values.foldl (fun n d => 16 * n + d) 0
  if n < 0xD800 ∨ (0xDFFF < n ∧ n ≤ 0x10FFFF) then some (Char.ofNat n) else none

/-- The rest of a quoted scalar, given its text so far, last character first. -/
def quotedRest (quote : Char) : Nat → Cursor → Gap → List Char → Option (List Char × Cursor)
  | 0, _, _, _ => none
  | fuel + 1, c, gap, text =>
    if c.atDocumentMarker then none
    else
      match c.peek with
      | none => none
      | some d =>
        if isBreak d then
          let (e, c) := c.newline
          quotedRest quote fuel c (gap.break e) text
        else if isBlank d then quotedRest quote fuel c.skip (gap.blank d) text
        else
          let text := gap.folded ++ text
          if d = quote then
            if quote = '\'' ∧ c.at? 1 = some '\'' then
              quotedRest quote fuel (c.skipMany 2) {} ('\'' :: text)
            else some (text.reverse, c.skip)
          else if d = '\\' ∧ quote = '"' then
            match c.at? 1 with
            | none => none
            | some e =>
              if isBreak e then
                let (_, c) := c.skip.newline
                quotedRest quote fuel c { broken := true } text
              else
                match escape? e with
                | some x => quotedRest quote fuel (c.skipMany 2) {} (x :: text)
                | none =>
                  match hexLength? e with
                  | none => none
                  | some n =>
                    match codePoint? n (c.rest.drop 2) with
                    | some x => quotedRest quote fuel (c.skipMany (2 + n)) {} (x :: text)
                    | none => none
          else quotedRest quote fuel c.skip {} (d :: text)

/-- A quoted scalar from its opening quote. -/
def quoted? (quote : Char) (c : Cursor) : Option (String × Cursor) :=
  (quotedRest quote (c.rest.length + 1) c.skip {} []).map fun (cs, c) => (String.ofList cs, c)

/-! ## Plain scalars -/

/-- An indicator that ends a list item or a list in flow collections. -/
def isFlowMark (c : Char) : Bool :=
  c == ',' || c == '[' || c == ']' || c == '\x7b' || c == '\x7d'

/-- The rest of a plain scalar: its text, what follows it, and whether a line end lies between. -/
def plainRest (inFlow : Bool) (indent : Nat) : Nat → Cursor → Gap → List Char →
    Option (List Char × Cursor × Bool)
  | 0, _, _, _ => none
  | fuel + 1, c, gap, text =>
    match c.peek with
    | none => some (text.reverse, c, gap.broken)
    | some d =>
      if isBreak d then
        let (e, c) := c.newline
        plainRest inFlow indent fuel c (gap.break e) text
      else if isBlank d then
        if gap.broken && c.column < indent && d == '\t' then none
        else plainRest inFlow indent fuel c.skip (gap.blank d) text
      else if !gap.isEmpty &&
          (c.atDocumentMarker || d == '#' || (!inFlow && c.column < indent)) then
        some (text.reverse, c, gap.broken)
      else if inFlow && d == ':' && (c.at? 1).any (fun e => isFlowMark e || e == '?') then none
      else if (d == ':' && c.gapAt 1) || (inFlow && isFlowMark d) then
        some (text.reverse, c, gap.broken)
      else plainRest inFlow indent fuel c.skip {} (d :: (gap.folded ++ text))

def plain? (inFlow : Bool) (indent : Nat) (c : Cursor) : Option (String × Cursor × Bool) :=
  (plainRest inFlow indent (c.rest.length + 1) c {} []).map fun (cs, c, broken) =>
    (String.ofList cs, c, broken)

/-! ## Block scalars -/

/-- What becomes of the line ends after the last line with text. -/
inductive Chomping where
  | strip | clip | keep
deriving DecidableEq, Repr

structure BlockHeader where
  chomping : Chomping := .clip
  increment : Option Nat := none

/-- The signs after the bar or the angle, in any order, and the rest of their line. -/
def blockHeader? (c : Cursor) : Option (BlockHeader × Cursor) := do
  let sign? : Char → Option Chomping := fun d =>
    if d == '+' then some .keep else if d == '-' then some .strip else none
  let digit? : Char → Option Nat := fun d =>
    if '1' ≤ d && d ≤ '9' then some (d.toNat - '0'.toNat) else none
  let (header, c) : BlockHeader × Cursor := match c.peek, c.at? 1 with
    | some d, e =>
      match sign? d, digit? d with
      | some s, _ =>
        match e.bind digit? with
        | some n => ({ chomping := s, increment := some n }, c.skipMany 2)
        | none => ({ chomping := s }, c.skip)
      | none, some n =>
        match e.bind sign? with
        | some s => ({ chomping := s, increment := some n }, c.skipMany 2)
        | none => ({ increment := some n }, c.skip)
      | none, none => ({}, c)
    | none, _ => ({}, c)
  let c := c.skipWhile isBlank
  let c := if c.peek = some '#' then c.skipWhile (!isBreak ·) else c
  match c.peek with
  | none => some (header, c)
  | some d => if isBreak d then some (header, c.newline.2) else none

/-- Empty lines in front of a line of text: their line ends, last first, the widest indentation
among them, and what follows. Without an indentation all leading spaces are taken. -/
def blockBreaks (indent : Option Nat) : Nat → Cursor → Nat → List Char →
    Option (List Char × Nat × Cursor)
  | 0, _, _, _ => none
  | fuel + 1, c, widest, breaks =>
    let spaces := (c.rest.takeWhile (· == ' ')).length
    let taken := match indent with
      | some n => min spaces (n - c.column)
      | none => spaces
    let c := c.skipMany taken
    let widest := max widest c.column
    let within := match indent with
      | some n => c.column < n
      | none => true
    match c.peek with
    | some d =>
      if within && d == '\t' then none
      else if isBreak d then
        let (e, c) := c.newline
        blockBreaks indent fuel c widest (e :: breaks)
      else some (breaks, widest, c)
    | none => some (breaks, widest, c)

/-- The lines of a block scalar. `lineEnd` is the end of the line before, `breaks` the ends of
empty lines since then, and `indented` tells whether the line before started with a blank. -/
def blockLines (literal : Bool) (indent : Nat) : Nat → Cursor → List Char → List Char → List Char →
    Bool → Option (List Char × List Char × List Char × Cursor)
  | 0, _, _, _, _, _ => none
  | fuel + 1, c, text, lineEnd, breaks, indented =>
    if c.column ≠ indent || c.atEnd then some (text, lineEnd, breaks, c)
    else
      let blank := c.peek.any isBlank
      let joined :=
        if !literal && lineEnd == ['\n'] && !indented && !blank then
          if breaks.isEmpty then ' ' :: text else breaks ++ text
        else breaks ++ lineEnd ++ text
      let line := c.rest.takeWhile (!isBreak ·)
      let c := c.skipMany line.length
      let text := line.reverse ++ joined
      let (lineEnd, c) : List Char × Cursor := match c.peek with
        | none => ([], c)
        | some _ => let (e, c) := c.newline; ([e], c)
      match blockBreaks (some indent) (c.rest.length + 1) c 0 [] with
      | none => none
      | some (breaks, _, c) => blockLines literal indent fuel c text lineEnd breaks blank

/-- A block scalar from its bar or angle, inside a block of some indentation. -/
def block? (literal : Bool) (parent : Int) (c : Cursor) : Option (String × Cursor) := do
  let (header, c) ← blockHeader? c.skip
  let fuel := c.rest.length + 1
  let fixed : Option Nat := header.increment.map fun n =>
    if 0 ≤ parent then parent.toNat + n else n
  let (breaks, widest, c) ← blockBreaks fixed fuel c 0 []
  let indent := fixed.getD (max widest (max (parent + 1).toNat 1))
  let (text, lineEnd, breaks, c) ← blockLines literal indent fuel c [] [] breaks false
  let text := match header.chomping with
    | .strip => text
    | .clip => lineEnd ++ text
    | .keep => breaks ++ lineEnd ++ text
  return (String.ofList text.reverse, c)

end CasefileHub.Yaml
