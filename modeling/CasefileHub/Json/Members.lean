import CasefileHub.Json.Reader
/-!
# Reading an object member by member

A record is read from the text of an object one member after the other, and has fields for some
names. The members of those names are read in full, and so are all names. The other members are only
skimmed: their texts and numbers must be well-formed, but a surrogate may stand alone, a number may be
out of range, and containers may be nested without limit. What is no object is read in full.

    readMembers known s = the object of s, with some value for each skimmed member
-/

namespace CasefileHub.Json

/-! ## Skimming a text -/

/-- What follows the closing quote of a text. The digits of an escape need not be a character. -/
def skimText : List Char → Except ReadError (List Char)
  | [] => .error .unexpectedEnd
  | '"' :: rest => .ok rest
  | '\\' :: 'u' :: a :: b :: c :: d :: rest =>
    if (hex4? a b c d).isSome then skimText rest else .error .badEscape
  | '\\' :: c :: rest => if (simpleEscape? c).isSome then skimText rest else .error .badEscape
  | c :: rest =>
    if c = '\\' then .error .badEscape
    else if c.toNat < 0x20 then .error .controlInText
    else skimText rest

/-- What follows a number after its sign, whatever its value. -/
def skimNumber (cs : List Char) : Except ReadError (List Char) := do
  let (whole, rest) := splitDigits cs
  if whole.isEmpty || (whole.length > 1 && whole.head? == some 0) then throw .badNumber
  let (_, rest) ← scanFraction rest
  let (_, rest) ← scanExponent rest
  return rest

/-- The first token of a text that starts with no space, and the rest. One token stands for all texts,
and one for all numbers. -/
def skimToken : List Char → Except ReadError (Token × List Char)
  | [] => .error .unexpectedEnd
  | c :: rest =>
    match punctuation? c with
    | some t => .ok (t, rest)
    | none =>
      if c = '"' then (skimText rest).map fun after => (.text "", after)
      else if c = '-' then (skimNumber rest).map fun after => (.number (.int 0), after)
      else if c.isDigit then (skimNumber (c :: rest)).map fun after => (.number (.int 0), after)
      else
        match scanWord (c :: rest) with
        | some found => .ok found
        | none => .error (.unexpected c)

/-! ## Reading -/

/-- The containers that are open around what comes next. -/
def Progress.frames : Progress → List Frame
  | .needValue frames _ => frames
  | .needName frames _ _ => frames
  | .needColon frames _ _ => frames
  | .afterItem outer _ => outer
  | .done _ => []

/-- The reader is inside a member of the outermost object that there is no field for. -/
def Progress.skims (known : String → Bool) (p : Progress) : Bool :=
  match p.frames.getLast? with
  | some (.object _ name) => !known name
  | _ => false

/-- Reads a token: in full, or only its kind and without limit on the containers. -/
def Progress.advance (known : String → Bool) (p : Progress) (cs : List Char) :
    Except ReadError (Progress × List Char) := do
  if p.skims known then
    let (t, after) ← skimToken cs
    return (← p.step (p.frames.length + 2) t, after)
  else
    let (t, after) ← scanToken cs
    return (← p.step nestingLimit t, after)

/-- Reads the tokens of a text, at most `fuel` of them. -/
def Progress.advanceAll (known : String → Bool) :
    Nat → Progress → List Char → Except ReadError Progress
  | 0, p, cs => if cs.all isSpace then .ok p else .error .unexpectedEnd
  | fuel + 1, p, cs =>
    match cs.dropWhile isSpace with
    | [] => .ok p
    | c :: rest => do
      let (p, after) ← p.advance known (c :: rest)
      p.advanceAll known fuel after

/-- The value of a text, if it is an object with the members as they stand in it, save the values of
those that are skimmed. Each token takes a character at least. -/
def readMembers (known : String → Bool) (s : String) : Except ReadError Json := do
  let cs := s.toList
  match ← Progress.advanceAll known cs.length (.needValue [] false) cs with
  | .done v => return v
  | _ => throw .unexpectedEnd

end CasefileHub.Json
