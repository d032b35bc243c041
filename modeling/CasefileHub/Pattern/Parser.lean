import CasefileHub.Pattern.Class
import CasefileHub.Pattern.Size
/-!
# Pattern syntax

Alternatives, groups with flags, repetitions, classes with set operations, escapes and assertions.
There is no look-around and no back reference: a text that asks for one is no pattern. `parse?`
gives nothing for a text that is not a pattern, or whose pattern goes beyond the limits.
-/

namespace CasefileHub.Pattern

/-- The flags in force and the group names given so far. -/
structure Context where
  flags : Flags := {}
  names : List String := []

/-! ## Groups and repetitions -/

def setFlag (flags : Flags) (value : Bool) : Char → Option Flags
  | 'i' => some { flags with ignoreCase := value }
  | 'm' => some { flags with multiLine := value }
  | 's' => some { flags with dotAll := value }
  | 'x' => some { flags with verbose := value }
  | 'R' => some { flags with crlf := value }
  | 'u' => some { flags with unicode := value }
  | 'U' => some flags
  | _ => none

/-- Flags up to a colon or a closing parenthesis, each at most once, and one hyphen before those
that are turned off, which is not the last of them. -/
def readFlags (flags : Flags) (negated last : Bool) (seen : List Char) :
    List Char → Option (Flags × List Char × List Char)
  | [] => none
  | c :: rest =>
    if c = ':' ∨ c = ')' then if last then none else some (flags, seen, c :: rest)
    else if c = '-' then if negated then none else readFlags flags true true seen rest
    else if seen.contains c then none
    else
      match setFlag flags (!negated) c with
      | some flags => readFlags flags negated false (c :: seen) rest
      | none => none

/-- What an opening parenthesis begins. -/
inductive Opening where
  | directive (flags : Flags)
  | group (context : Context)

def isNameStart (c : Char) : Bool := c == '_' || c.isAlpha || (0x80 ≤ c.toNat && Text.isWord c)

def isNameChar (c : Char) : Bool :=
  isNameStart c || c.isDigit || c == '.' || c == '[' || c == ']'

/-- A group name up to its closing bracket; no two groups share a name. -/
def groupName? (ctx : Context) (cs : List Char) : Option (Context × List Char) :=
  let name := cs.takeWhile (· ≠ '>')
  match name, cs.dropWhile (· ≠ '>') with
  | c :: more, _ :: rest =>
    let text := String.ofList name
    if isNameStart c && more.all isNameChar && !ctx.names.contains text then
      some ({ ctx with names := text :: ctx.names }, rest)
    else none
  | _, _ => none

def opening? (ctx : Context) (cs : List Char) : Option (Opening × List Char) :=
  match skip ctx.flags cs with
  | '?' :: '=' :: _ | '?' :: '!' :: _ | '?' :: '<' :: '=' :: _ | '?' :: '<' :: '!' :: _ => none
  | '?' :: 'P' :: '<' :: rest | '?' :: '<' :: rest =>
    (groupName? ctx rest).map fun (ctx, rest) => (.group ctx, rest)
  | '?' :: rest =>
    match readFlags ctx.flags false false [] rest with
    | some (flags, _, ':' :: rest) => some (.group { ctx with flags := flags }, rest)
    | some (flags, seen, ')' :: rest) => if seen.isEmpty then none else some (.directive flags, rest)
    | _ => none
  | rest => some (.group ctx, rest)

/-- A repetition count with blanks around it. -/
def readCount (cs : List Char) : Option (Nat × List Char) :=
  let cs := cs.dropWhile Text.isBlank
  let digits := cs.takeWhile Char.isDigit
  let n := Text.decimalNumber digits
  if digits.isEmpty || Nat.pow 2 32 ≤ n then none
  else some (n, (cs.dropWhile Char.isDigit).dropWhile Text.isBlank)

/-- The counts after an opening brace, and what follows the closing one. -/
def readCounts (flags : Flags) (cs : List Char) : Option ((Nat × Option Nat) × List Char) := do
  let (low, rest) ← readCount (skip flags cs)
  match rest with
  | '\x7d' :: rest => some ((low, some low), rest)
  | ',' :: rest =>
    match skip flags rest with
    | '\x7d' :: rest => some ((low, none), rest)
    | rest =>
      let (high, rest) ← readCount rest
      match rest with
      | '\x7d' :: rest => if low ≤ high then some ((low, some high), rest) else none
      | _ => none
  | _ => none

def dropLazy : List Char → List Char
  | '?' :: rest => rest
  | cs => cs

/-- The repetition that starts with a character, if any: its counts and the rest. -/
def repetition? (flags : Flags) (c : Char) (rest : List Char) :
    Option (Option ((Nat × Option Nat) × List Char)) :=
  match c with
  | '*' => some (some ((0, none), dropLazy rest))
  | '+' => some (some ((1, none), dropLazy rest))
  | '?' => some (some ((0, some 1), dropLazy rest))
  | '\x7b' =>
    some ((readCounts flags rest).map fun (counts, rest) => (counts, dropLazy (skip flags rest)))
  | _ => none

/-- A character that is no group, class or operator. -/
def plain? (flags : Flags) (c : Char) (rest : List Char) : Option (Pattern × List Char) :=
  match c with
  | '\\' =>
    match escape? flags rest with
    | some (.char c, rest) => some (.set (literal flags c), rest)
    | some (.set s, rest) => some (.set s, rest)
    | some (.assertion a, rest) => some (.assertion a, rest)
    | none => none
  | '.' =>
    if !flags.unicode then none
    else if flags.dotAll then some (.set .any, rest)
    else if flags.crlf then some (.set (.complement (.ofList ['\n', '\r'])), rest)
    else some (.set (.complement (.single '\n')), rest)
  | '^' =>
    some (.assertion
      (if !flags.multiLine then .textStart else if flags.crlf then .lineStartCrlf else .lineStart),
      rest)
  | '$' =>
    some (.assertion
      (if !flags.multiLine then .textEnd else if flags.crlf then .lineEndCrlf else .lineEnd), rest)
  | c => some (.set (literal flags c), rest)

def concat (items : List (Option Pattern)) : Pattern :=
  (items.filterMap id).foldl (fun later p => if later = .empty then p else .seq p later) .empty

mutual

/-- Alternatives up to a closing parenthesis or the end. -/
def alternatives? : Nat → Context → List Char → Option (Pattern × Context × List Char)
  | 0, _, _ => none
  | fuel + 1, ctx, cs =>
    match sequence? fuel ctx cs [] with
    | none => none
    | some (p, ctx, '|' :: rest) =>
      match alternatives? fuel ctx rest with
      | some (q, ctx, rest) => some (.alt p q, ctx, rest)
      | none => none
    | some found => some found

/-- Items up to a bar, a closing parenthesis or the end; those read so far come last first, and a
change of flags counts as an item that cannot be repeated. -/
def sequence? : Nat → Context → List Char → List (Option Pattern) →
    Option (Pattern × Context × List Char)
  | 0, _, _, _ => none
  | fuel + 1, ctx, cs, items =>
    match skip ctx.flags cs with
    | [] => some (concat items, ctx, [])
    | c :: rest =>
      if c = '|' ∨ c = ')' then some (concat items, ctx, c :: rest)
      else
        match repetition? ctx.flags c rest with
        | some found =>
          match found, items with
          | some ((low, high), rest), some p :: before =>
            sequence? fuel ctx rest (some (.copies p low high) :: before)
          | _, _ => none
        | none =>
          if c = '(' then
            match opening? ctx rest with
            | none => none
            | some (.directive flags, rest) =>
              sequence? fuel { ctx with flags := flags } rest (none :: items)
            | some (.group inner, rest) =>
              match alternatives? fuel inner rest with
              | some (p, after, ')' :: rest) =>
                sequence? fuel { after with flags := ctx.flags } rest (some (.group p) :: items)
              | _ => none
          else if c = '[' then
            match classOpen? ctx.flags fuel rest with
            | some (s, rest) => sequence? fuel ctx rest (some (.set s) :: items)
            | none => none
          else
            match plain? ctx.flags c rest with
            | some (p, rest) => sequence? fuel ctx rest (some p :: items)
            | none => none

end

/-- The pattern that a text spells. -/
def parse? (s : String) : Option Pattern :=
  let cs := s.toList
  match alternatives? (2 * cs.length + 2) {} cs with
  | some (p, _, []) => if p.isWithinLimits then some p else none
  | _ => none

end CasefileHub.Pattern
