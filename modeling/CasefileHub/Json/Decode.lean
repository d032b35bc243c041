import CasefileHub.Json.Printer
import CasefileHub.Text.Quoted
import CasefileHub.Text.Blank
/-!
# Reading typed data from JSON values

A `Decoder α` reads a value as an `α` or says why it cannot. Records are read from an object, by the
names of its members, or from an array, by their position. Of several faults in an object the one
whose member comes first is reported, and an absent member only when no member is at fault; in an
array the first faulty item is. `Fields` gathers the fields of a record in their declared order.
-/

namespace CasefileHub

namespace Json

/-- What stands where something else was expected. -/
inductive Found where
  | null
  | bool (b : Bool)
  | num (n : Number)
  | text (s : String)
  | sequence
  | map
deriving DecidableEq, Repr

def Found.message : Found → String
  | .null => "null"
  | .bool true => "boolean `true`"
  | .bool false => "boolean `false`"
  | .num (.int n) => "integer `" ++ Number.text (.int n) ++ "`"
  | .num (.real x) => "floating point `" ++ x.text ++ "`"
  | .text s => "string " ++ Text.quote s
  | .sequence => "sequence"
  | .map => "map"

def found : Json → Found
  | .null => .null
  | .bool b => .bool b
  | .num n => .num n
  | .str s => .text s
  | .arr _ => .sequence
  | .obj _ => .map

/-- Why a value does not read as some type. -/
inductive DecodeError where
  | invalidType (found : Found) (expected : String)
  | invalidValue (found : Found) (expected : String)
  | invalidLength (length : Nat) (expected : String)
  | unknownVariant (variant : String) (variants : List String)
  | missingField (name : String)
  | duplicateField (name : String)
  | malformedTime (problem : String)
deriving DecidableEq, Repr

def inTicks (s : String) : String := "`" ++ s ++ "`"

/-- The names that could have stood in place of an unknown one. -/
def oneOf : List String → String
  | [] => "there are no variants"
  | [a] => "expected " ++ inTicks a
  | [a, b] => "expected " ++ inTicks a ++ " or " ++ inTicks b
  | l => "expected one of " ++ Text.join ", " (l.map inTicks)

def DecodeError.message : DecodeError → String
  | .invalidType f e => "invalid type: " ++ f.message ++ ", expected " ++ e
  | .invalidValue f e => "invalid value: " ++ f.message ++ ", expected " ++ e
  | .invalidLength n e => "invalid length " ++ Nat.repr n ++ ", expected " ++ e
  | .unknownVariant v vs => "unknown variant " ++ inTicks v ++ ", " ++ oneOf vs
  | .missingField n => "missing field " ++ inTicks n
  | .duplicateField n => "duplicate field " ++ inTicks n
  | .malformedTime p => p

end Json

open Json (DecodeError)

/-- Reads a value as an `α`. -/
abbrev Decoder (α : Type) := Json → Except DecodeError α

namespace Decoder

variable {α β : Type}

def mismatch (v : Json) (expected : String) : Except DecodeError α :=
  .error (.invalidType v.found expected)

/-- The value itself, in normal form. -/
def json : Decoder Json := fun v => .ok v.normalize

def text : Decoder String
  | .str s => .ok s
  | v => mismatch v "a string"

def bool : Decoder Bool
  | .bool b => .ok b
  | v => mismatch v "a boolean"

/-- A natural number up to a limit; `expected` names the width. -/
def natUpTo (limit : Nat) (expected : String) : Decoder Nat
  | .num (.int n) =>
    if 0 ≤ n ∧ n ≤ limit then .ok n.toNat
    else .error (.invalidValue (.num (.int n)) expected)
  | v => mismatch v expected

def count : Decoder Nat := natUpTo (Nat.pow 2 64 - 1) "usize"

def word64 : Decoder Nat := natUpTo (Nat.pow 2 64 - 1) "u64"

def word32 : Decoder Nat := natUpTo (Nat.pow 2 32 - 1) "u32"

def uint32 : Decoder UInt32 := fun v => UInt32.ofNat <$> word32 v

def real : Decoder Binary64
  | .num n => .ok n.toReal
  | v => mismatch v "f64"

/-- Null is the absence of a value. -/
def option (d : Decoder α) : Decoder (Option α)
  | .null => .ok none
  | v => some <$> d v

def list (d : Decoder α) : Decoder (List α)
  | .arr items => items.mapM d
  | v => mismatch v "a sequence"

/-- The members of an object, ordered by name. -/
def members : Decoder (List (String × Json))
  | .obj ms =>
    match Json.normalize (.obj ms) with
    | .obj sorted => .ok sorted
    | _ => .ok []
  | v => mismatch v "a map"

/-- A name out of a list, or an object with that name alone and null. -/
def choice (variants : List (String × α)) : Decoder α :=
  let pick (name : String) : Except DecodeError α :=
    match variants.lookup name with
    | some a => .ok a
    | none => .error (.unknownVariant name (variants.map Prod.fst))
  fun
  | .str s => pick s
  | .obj [(name, v)] => do
    let a ← pick name
    if v.isNull then .ok a else mismatch v "unit"
  | .obj _ => .error (.invalidValue .map "map with a single key")
  | v => mismatch v "string or map"

end Decoder

/-! ## Fields of a record -/

/-- A fault among the members of an object, at the position of the member, or after all of them
for an absent one. -/
structure MemberFault where
  position : Nat
  cause : DecodeError
deriving DecidableEq, Repr

/-- A fault among the items of an array: an item is absent, or does not read. -/
inductive ItemFault where
  | absent (index : Nat)
  | cause (e : DecodeError)
deriving DecidableEq, Repr

/-- Reads some fields of a record, from the members of an object or the items of an array. -/
structure Fields (α : Type) where
  size : Nat
  fromMembers : List (String × Json) → Except MemberFault α
  fromItems : Nat → List Json → Except ItemFault α

namespace Fields

variable {α β : Type}

/-- The earlier of two faults; of two absent members the one declared first. -/
def MemberFault.first (a b : MemberFault) : MemberFault := if b.position < a.position then b else a

/-- Both groups of fields, one after the other. -/
def andThen (f : Fields (α → β)) (g : Fields α) : Fields β where
  size := f.size + g.size
  fromMembers ms :=
    match f.fromMembers ms, g.fromMembers ms with
    | .ok h, .ok a => .ok (h a)
    | .error e, .ok _ => .error e
    | .ok _, .error e => .error e
    | .error e, .error e' => .error (MemberFault.first e e')
  fromItems index items := do
    let h ← f.fromItems index items
    let a ← g.fromItems (index + f.size) (items.drop f.size)
    return h a

/-- No field: a value known beforehand. -/
def value (a : α) : Fields α where
  size := 0
  fromMembers _ := .ok a
  fromItems _ _ := .ok a

instance : Pure Fields := ⟨value⟩

instance : Functor Fields where
  map h f := andThen (value h) f

instance : Seq Fields := ⟨fun f g => andThen f (g ())⟩

/-- Where a name stands among members, with its value and whether it stands there once. -/
def locate (name : String) : Nat → List (String × Json) → Option (Nat × Json)
  | _, [] => none
  | i, (n, v) :: rest => if n = name then some (i, v) else locate name (i + 1) rest

def repeatedAt (name : String) (ms : List (String × Json)) : Option Nat :=
  match locate name 0 ms with
  | none => none
  | some (i, _) => (locate name (i + 1) (ms.drop (i + 1))).map Prod.fst

/-- A field of a name, given what its absence means in an object and in an array. -/
def field (name : String) (d : Decoder α) (inObject inArray : Option α) : Fields α where
  size := 1
  fromMembers ms :=
    match repeatedAt name ms with
    | some i => .error ⟨i, .duplicateField name⟩
    | none =>
      match locate name 0 ms with
      | some (i, v) =>
        match d v with
        | .ok a => .ok a
        | .error e => .error ⟨i, e⟩
      | none =>
        match inObject with
        | some a => .ok a
        | none => .error ⟨ms.length, .missingField name⟩
  fromItems index items :=
    match items with
    | v :: _ =>
      match d v with
      | .ok a => .ok a
      | .error e => .error (.cause e)
    | [] =>
      match inArray with
      | some a => .ok a
      | none => .error (.absent index)

def required (name : String) (d : Decoder α) : Fields α := field name d none none

/-- A field that may be null, and absent from an object. -/
def nullable (name : String) (d : Decoder α) : Fields (Option α) :=
  field name d.option (some none) none

/-- A field with a value for its absence. -/
def withDefault (name : String) (d : Decoder α) (default : α) : Fields α :=
  field name d (some default) (some default)

/-- A field that may be null or absent. -/
def optional (name : String) (d : Decoder α) : Fields (Option α) :=
  withDefault name d.option none

end Fields

/-- A record of a name, out of an object or an array of its fields. -/
def Decoder.record (name : String) (fields : Fields α) : Decoder α
  | .obj ms =>
    match fields.fromMembers ms with
    | .ok a => .ok a
    | .error e => .error e.cause
  | .arr items =>
    match fields.fromItems 0 items with
    | .ok a =>
      if items.length ≤ fields.size then .ok a
      else .error (.invalidLength items.length "fewer elements in array")
    | .error (.absent index) =>
      let elements := if fields.size = 1 then " element" else " elements"
      .error (.invalidLength index ("struct " ++ name ++ " with " ++ Nat.repr fields.size ++ elements))
    | .error (.cause e) => .error e
  | v => .error (.invalidType v.found ("struct " ++ name))

end CasefileHub
