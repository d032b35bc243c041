import CasefileHub.Yaml.Node
import CasefileHub.Error
/-!
# Reading typed data from YAML nodes

A `Reader α` reads a node as an `α`, or not at all. Text is any scalar as it is written; numbers,
truth values and nulls are plain scalars of a fixed spelling. An empty plain scalar stands for an
empty list and for a record without fields.
-/

namespace CasefileHub.Yaml

/-- Reads a node as an `α`. -/
abbrev Reader (α : Type) := Node → Option α

namespace Reader

variable {α : Type}

def text : Reader String
  | .scalar s _ _ => some s
  | _ => none

def bool : Reader Bool
  | .scalar s true _ =>
    if s ∈ ["true", "True", "TRUE"] then some true
    else if s ∈ ["false", "False", "FALSE"] then some false
    else none
  | _ => none

/-! ## Numbers -/

/-- The value of digits in a base of at most sixteen, of which there is at least one. -/
def digits? (base : Nat) (cs : List Char) : Option Nat :=
  if cs.isEmpty then none
  else cs.foldlM (fun n c => do
    let d ← hexValue? c
    if d < base then some (base * n + d) else none) 0

/-- The base that a mark in front of digits names. -/
def radix? : List Char → Option (Nat × List Char)
  | '0' :: 'x' :: rest => some (16, rest)
  | '0' :: 'o' :: rest => some (8, rest)
  | '0' :: 'b' :: rest => some (2, rest)
  | _ => none

/-- Digits that start with a zero and go on are no number. -/
def isPadded (cs : List Char) : Bool :=
  match cs with
  | '0' :: c :: rest => (c :: rest).all Char.isDigit
  | _ => false

/-- The number of a spelling: decimal, or after a mark of its base; a plus sign may precede it. -/
def natural? (s : String) : Option Nat :=
  let cs := match s.toList with
    | '+' :: rest => rest
    | cs => cs
  match radix? cs with
  | some (base, rest) => digits? base (match rest with | '+' :: _ => [] | rest => rest)
  | none => if isPadded cs then none else digits? 10 cs

/-- A natural number of 64 bits. -/
def word64 : Reader Nat
  | .scalar s true _ => (natural? s).filter (· < Nat.pow 2 64)
  | _ => none

/-! ## Collections -/

/-- A plain scalar that stands for nothing. -/
def isNull : Node → Bool
  | .scalar s true none => s ∈ ["", "~", "null", "Null", "NULL"]
  | _ => false

/-- Null is the absence of a value. -/
def option (r : Reader α) : Reader (Option α) := fun n =>
  if isNull n then some none else some <$> r n

/-- Nothing at all, where a collection is expected. -/
def isMissing : Node → Bool
  | .scalar s true _ => s.isEmpty
  | _ => false

def list (r : Reader α) : Reader (List α)
  | .sequence items => items.mapM r
  | n => if isMissing n then some [] else none

end Reader

/-! ## Records -/

/-- Reads some fields of a record, out of all by name. -/
structure Fields (α : Type) where
  run : List (String × Node) → Option α

namespace Fields

variable {α β : Type}

instance : Pure Fields := ⟨fun a => ⟨fun _ => some a⟩⟩

instance : Functor Fields where
  map h f := ⟨fun fs => (f.run fs).map h⟩

instance : Seq Fields := ⟨fun f g => ⟨fun fs => do return (← f.run fs) (← (g ()).run fs)⟩⟩

/-- A field that is present once. -/
def required (name : String) (r : Reader α) : Fields α where
  run fs :=
    match fs.filter (·.1 == name) with
    | [(_, n)] => r n
    | _ => none

/-- A field that is present at most once, with a value for its absence. -/
def withDefault (name : String) (r : Reader α) (default : α) : Fields α where
  run fs := if fs.any (·.1 == name) then (required name r).run fs else some default

/-- A field that may be null or absent. -/
def optional (name : String) (r : Reader α) : Fields (Option α) := withDefault name r.option none

end Fields

namespace Reader

variable {α : Type}

/-- An entry of a mapping under a key that is text. -/
def named (entry : Node × Node) : Option (String × Node) := (text entry.1).map (·, entry.2)

/-- A record of fields with names of their own; further fields do not count. -/
def record (fields : Fields α) : Reader α
  | .mapping entries => (entries.mapM named).bind fields.run
  | n => if isMissing n then fields.run [] else none

/-- The value that a text spells. -/
def parse (r : Reader α) (text : String) : Except HubError α :=
  match (Node.read? text).bind r with
  | some a => .ok a
  | none => .error (.yaml "the text does not have the expected form")

end Reader

end CasefileHub.Yaml
