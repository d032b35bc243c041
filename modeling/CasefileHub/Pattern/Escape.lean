import CasefileHub.Pattern.Named
/-!
# Flags and escapes

What a backslash and the characters after it stand for, under the flags in force: a character, a set
or an assertion.
-/

namespace CasefileHub.Pattern

structure Flags where
  ignoreCase : Bool := false
  multiLine : Bool := false
  dotAll : Bool := false
  verbose : Bool := false
  crlf : Bool := false
  unicode : Bool := true
deriving DecidableEq, Repr

/-- Adds case forms where case does not matter. -/
def folded (flags : Flags) (s : CharSet) : CharSet := if flags.ignoreCase then .anyCase s else s

def literal (flags : Flags) (c : Char) : CharSet := folded flags (.single c)

/-! ## Escapes -/

/-- What an escape stands for. -/
inductive Escape where
  | char (c : Char)
  | set (s : CharSet)
  | assertion (a : Assertion)

def hexDigit? (c : Char) : Option Nat :=
  if c.isDigit then some (c.toNat - '0'.toNat)
  else if 'a' ≤ c ∧ c ≤ 'f' then some (c.toNat - 'a'.toNat + 10)
  else if 'A' ≤ c ∧ c ≤ 'F' then some (c.toNat - 'A'.toNat + 10)
  else none

/-- The character of a hexadecimal code point. -/
def codePoint? (digits : List Char) : Option Char := do
  if digits.isEmpty then none
  let values ← digits.mapM hexDigit?
  let n := values.foldl (fun n d => 16 * n + d) 0
  if n < 0xD800 ∨ (0xDFFF < n ∧ n ≤ 0x10FFFF) then some (Char.ofNat n) else none

/-- A code point after `x`, `u` or `U`: so many digits, or any number of them between braces. -/
def hexEscape? (count : Nat) (cs : List Char) : Option (Escape × List Char) :=
  match cs with
  | '\x7b' :: rest =>
    match rest.dropWhile (· ≠ '\x7d') with
    | _ :: after => (codePoint? (rest.takeWhile (· ≠ '\x7d'))).map fun c => (.char c, after)
    | [] => none
  | _ =>
    if cs.length < count then none
    else (codePoint? (cs.take count)).map fun c => (.char c, cs.drop count)

/-- A set after `p`: named by one letter, or by a text between braces. -/
def namedSetEscape? (flags : Flags) (negated : Bool) (cs : List Char) :
    Option (Escape × List Char) := do
  if !flags.unicode then none
  let (text, rest) ← match cs with
    | '\x7b' :: rest =>
      match rest.dropWhile (· ≠ '\x7d') with
      | _ :: after => some (rest.takeWhile (· ≠ '\x7d'), after)
      | [] => none
    | c :: rest => some ([c], rest)
    | [] => none
  let s := folded flags (← setBetween? text)
  return (.set (if negated then .complement s else s), rest)

/-- The class of `d`, `s` or `w`. -/
def classEscape? (flags : Flags) : Char → Option CharSet
  | 'd' => some (if flags.unicode then .digit else asciiDigit)
  | 's' => some (if flags.unicode then .space else asciiSpace)
  | 'w' => some (if flags.unicode then .word else asciiWord)
  | 'D' => if flags.unicode then some (.complement .digit) else none
  | 'S' => if flags.unicode then some (.complement .space) else none
  | 'W' => if flags.unicode then some (.complement .word) else none
  | _ => none

/-- A word boundary after `b`, perhaps of a kind named between braces. -/
def boundaryEscape? (words : CharSet) (cs : List Char) : Option (Escape × List Char) :=
  match cs with
  | '\x7b' :: rest =>
    let isName := fun c => c.isAlpha || c == '-'
    let name := rest.takeWhile isName
    if name.isEmpty then some (.assertion (.wordBoundary words), cs)
    else
      match rest.dropWhile isName with
      | '\x7d' :: after =>
        match String.ofList name with
        | "start" => some (.assertion (.wordStart words), after)
        | "end" => some (.assertion (.wordEnd words), after)
        | "start-half" => some (.assertion (.wordStartHalf words), after)
        | "end-half" => some (.assertion (.wordEndHalf words), after)
        | _ => none
      | _ => none
  | _ => some (.assertion (.wordBoundary words), cs)

/-- The escape after a backslash. ASCII characters that are neither letters nor digits stand for
themselves. -/
def escape? (flags : Flags) : List Char → Option (Escape × List Char)
  | [] => none
  | c :: rest =>
    let words := if flags.unicode then CharSet.word else asciiWord
    match c with
    | 'x' => hexEscape? 2 rest
    | 'u' => hexEscape? 4 rest
    | 'U' => hexEscape? 8 rest
    | 'p' => namedSetEscape? flags false rest
    | 'P' => namedSetEscape? flags true rest
    | 'a' => some (.char (Char.ofNat 7), rest)
    | 'f' => some (.char (Char.ofNat 12), rest)
    | 'v' => some (.char (Char.ofNat 11), rest)
    | 't' => some (.char '\t', rest)
    | 'n' => some (.char '\n', rest)
    | 'r' => some (.char '\r', rest)
    | 'A' => some (.assertion .textStart, rest)
    | 'z' => some (.assertion .textEnd, rest)
    | 'b' => boundaryEscape? words rest
    | 'B' => if flags.unicode then some (.assertion (.notWordBoundary words), rest) else none
    | '<' => some (.assertion (.wordStart words), rest)
    | '>' => some (.assertion (.wordEnd words), rest)
    | _ =>
      match classEscape? flags c with
      | some s => some (.set s, rest)
      | none => if c.toNat < 0x80 && !c.isAlphanum then some (.char c, rest) else none

end CasefileHub.Pattern
