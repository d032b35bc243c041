import CasefileHub.Pattern.Escape
/-!
# Bracketed classes

A class lists characters, ranges, escapes, named classes and further classes, and joins such lists
by intersection, difference and symmetric difference from left to right.
-/

namespace CasefileHub.Pattern

/-- In verbose patterns, drops blanks and comments. -/
def skipVerbose (flags : Flags) : Nat → List Char → List Char
  | 0, cs => cs
  | fuel + 1, cs =>
    if !flags.verbose then cs
    else
      match cs.dropWhile Text.isBlank with
      | '#' :: rest => skipVerbose flags fuel (rest.dropWhile (· ≠ '\n'))
      | cs => cs

def skip (flags : Flags) (cs : List Char) : List Char := skipVerbose flags cs.length cs

/-- One item of a class: a character or a set. -/
def classItem? (flags : Flags) : List Char → Option ((Char ⊕ CharSet) × List Char)
  | [] => none
  | '\\' :: rest =>
    match escape? flags rest with
    | some (.char c, rest) => some (.inl c, rest)
    | some (.set s, rest) => some (.inr s, rest)
    | _ => none
  | c :: rest => some (.inl c, rest)

/-- An item of a class, or a range of characters. A hyphen before the closing bracket or another
hyphen is none of a range. -/
def classRange? (flags : Flags) (cs : List Char) : Option (CharSet × List Char) := do
  let (item, rest) ← classItem? flags cs
  let alone : CharSet := match item with
    | .inl c => literal flags c
    | .inr s => s
  match skip flags rest with
  | [] => none
  | '-' :: after =>
    match skip flags after with
    | [] => none
    | ']' :: _ | '-' :: _ => some (alone, skip flags rest)
    | after =>
      let (last, rest) ← classItem? flags after
      match item, last with
      | .inl low, .inl high =>
        if low ≤ high then some (folded flags (.range low high), rest) else none
      | _, _ => none
  | rest => some (alone, rest)

/-- A named class after `[:`, with what follows its `:]`. -/
def namedClass? (flags : Flags) (cs : List Char) : Option (CharSet × List Char) := do
  let (negated, cs) := match cs with
    | '^' :: rest => (true, rest)
    | rest => (false, rest)
  match cs.dropWhile (· ≠ ':') with
  | ':' :: ']' :: after =>
    let s ← asciiClass? (String.ofList (cs.takeWhile (· ≠ ':')))
    let s := folded flags s
    some (if negated then .complement s else s, after)
  | _ => none

/-- An operator between two sets of a class, waiting for its right side. -/
inductive Pending where
  | nothing
  | inter (left : CharSet)
  | difference (left : CharSet)
  | symmetric (left : CharSet)

def Pending.apply (right : CharSet) : Pending → CharSet
  | .nothing => right
  | .inter left => .inter left right
  | .difference left => .inter left (.complement right)
  | .symmetric left =>
    .union (.inter left (.complement right)) (.inter right (.complement left))

/-- Hyphens in front of a class stand for themselves. -/
def leadingHyphens (flags : Flags) : Nat → List Char → CharSet → CharSet × List Char
  | 0, cs, s => (s, cs)
  | fuel + 1, cs, s =>
    match skip flags cs with
    | '-' :: rest => leadingHyphens flags fuel rest (.union s (.single '-'))
    | cs => (s, cs)

mutual

/-- A class after its opening bracket. -/
def classOpen? (flags : Flags) : Nat → List Char → Option (CharSet × List Char)
  | 0, _ => none
  | fuel + 1, cs => do
    let (negated, cs) := match skip flags cs with
      | '^' :: rest => (true, rest)
      | rest => (false, rest)
    let (start, cs) := leadingHyphens flags cs.length cs .none
    let (start, cs) := match start, cs with
      | .none, ']' :: rest => (CharSet.single ']', rest)
      | s, rest => (s, rest)
    let (s, rest) ← classBody? flags fuel cs start .nothing
    if negated && !flags.unicode then none
    some (if negated then .complement s else s, rest)

/-- The items of a class up to its closing bracket. -/
def classBody? (flags : Flags) : Nat → List Char → CharSet → Pending →
    Option (CharSet × List Char)
  | 0, _, _, _ => none
  | fuel + 1, cs, s, pending =>
    match skip flags cs with
    | [] => none
    | ']' :: rest => some (pending.apply s, rest)
    | '&' :: '&' :: rest => classBody? flags fuel rest .none (.inter (pending.apply s))
    | '-' :: '-' :: rest => classBody? flags fuel rest .none (.difference (pending.apply s))
    | '~' :: '~' :: rest => classBody? flags fuel rest .none (.symmetric (pending.apply s))
    | '[' :: rest =>
      let named := match rest with
        | ':' :: name => namedClass? flags name
        | _ => none
      match named with
      | some (t, rest) => classBody? flags fuel rest (.union s t) pending
      | none =>
        match classOpen? flags fuel rest with
        | some (t, rest) => classBody? flags fuel rest (.union s t) pending
        | none => none
    | cs =>
      match classRange? flags cs with
      | some (t, rest) => classBody? flags fuel rest (.union s t) pending
      | none => none

end

end CasefileHub.Pattern
