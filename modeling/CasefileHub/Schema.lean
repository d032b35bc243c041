import CasefileHub.Bound
import CasefileHub.Json.Reader
/-!
# JSON schemas

The part of a JSON schema that says something about parameters: annotations, types, bounds, allowed
values, references, combinations and properties in the order of the text. Reading checks the other
known keywords too, so a text with a malformed one is no schema.
-/

namespace CasefileHub

inductive InstanceType where
  | null | boolean | object | array | number | string | integer
deriving DecidableEq, Repr

def InstanceType.decoder : Decoder InstanceType := .choice [
  ("null", .null), ("boolean", .boolean), ("object", .object), ("array", .array),
  ("number", .number), ("string", .string), ("integer", .integer)]

/-- One type, or a list of them. -/
inductive SchemaTypes where
  | single (t : InstanceType)
  | several (ts : List InstanceType)
deriving DecidableEq, Repr

/-- What a schema says about itself. It is there as soon as one of the remarks has a value. -/
structure Remarks where
  description : Option String := none
  default : Option Json := none
deriving DecidableEq, Repr

structure NumberBounds where
  minimum : Option Bound := none
  maximum : Option Bound := none
deriving DecidableEq, Repr

structure TextBounds where
  minLength : Option Nat := none
  maxLength : Option Nat := none
  pattern : Option String := none
deriving DecidableEq, Repr

structure ItemBounds where
  minItems : Option Nat := none
  maxItems : Option Nat := none
deriving DecidableEq, Repr

/-- The keywords of a schema that hold no schemas. -/
structure SchemaFacts where
  remarks : Option Remarks := none
  types : Option SchemaTypes := none
  allowed : Option (List Json) := none
  reference : Option String := none
  number : Option NumberBounds := none
  text : Option TextBounds := none
  items : Option ItemBounds := none
  required : List String := []
deriving DecidableEq, Repr

/-- A schema: a plain yes or no, or keywords. -/
inductive Schema where
  | trivial (allows : Bool)
  | keywords (facts : SchemaFacts) (anyOf allOf oneOf : Option (List Schema))
      (properties : List (String × Schema))
deriving Repr

instance : Inhabited Schema := ⟨.trivial true⟩

/-- A schema with the definitions that its references name. -/
structure RootSchema where
  schema : Schema
  definitions : List (String × Schema) := []
deriving Repr

namespace Schema

/-- A schema of some facts only. -/
def ofFacts (facts : SchemaFacts) : Schema := .keywords facts none none none []

/-! ## Reading -/

/-- A member that may be null, of which null counts as present. -/
def nullCounts (name : String) : Fields (Option Json) :=
  .field name (fun v => (some <$> Decoder.json v)) (some none) (some none)

def remarksFields : Fields (Option Remarks) :=
  (fun (id title description : Option String) (default : Option Json) (deprecated readOnly
      writeOnly : Bool) (examples : List Json) =>
    if id.isSome || title.isSome || description.isSome || default.isSome || deprecated ||
        readOnly || writeOnly || !examples.isEmpty then
      some ⟨description, default⟩
    else none)
    <$> .optional "$id" .text
    <*> .optional "title" .text
    <*> .optional "description" .text
    <*> nullCounts "default"
    <*> .withDefault "deprecated" .bool false
    <*> .withDefault "readOnly" .bool false
    <*> .withDefault "writeOnly" .bool false
    <*> .withDefault "examples" (.list .json) []

def types : Decoder SchemaTypes
  | .arr items => .several <$> items.mapM InstanceType.decoder
  | v => .single <$> InstanceType.decoder v

def numberFields : Fields (Option NumberBounds) :=
  (fun (_ _ _ : Option Binary64) (minimum maximum : Option Bound) =>
    some ⟨minimum, maximum⟩)
    <$> .optional "multipleOf" .real
    <*> .optional "exclusiveMaximum" .real
    <*> .optional "exclusiveMinimum" .real
    <*> .optional "minimum" Bound.decoder
    <*> .optional "maximum" Bound.decoder

def textFields : Fields (Option TextBounds) :=
  (fun (minLength maxLength : Option Nat) (pattern : Option String) =>
    if minLength.isSome || maxLength.isSome || pattern.isSome then
      some ⟨minLength, maxLength, pattern⟩
    else none)
    <$> .optional "minLength" .word32
    <*> .optional "maxLength" .word32
    <*> .optional "pattern" .text

/-- Item bounds are there as soon as any keyword about items is. -/
def itemFields (schema : Decoder Schema) : Fields (Option ItemBounds) :=
  let oneOrMany : Decoder Unit
    | .arr items => (fun _ => ()) <$> items.mapM schema
    | v => (fun _ => ()) <$> schema v
  (fun (minItems maxItems : Option Nat) (unique : Option Bool) (items : Option Unit)
      (additional contains : Option Schema) =>
    if minItems.isSome || maxItems.isSome || unique.isSome || items.isSome ||
        additional.isSome || contains.isSome then
      some ⟨minItems, maxItems⟩
    else none)
    <$> .optional "minItems" .word32
    <*> .optional "maxItems" .word32
    <*> .optional "uniqueItems" .bool
    <*> .optional "items" oneOrMany
    <*> .optional "additionalItems" schema
    <*> .optional "contains" schema

/-- Schemas by name, in the order of the text; a repeated name keeps its first place and its last
schema. -/
def named (schema : Decoder Schema) : Decoder (List (String × Schema))
  | .obj members => do
    let read ← members.mapM fun (name, v) => do
      return (name, ← schema v)
    return read.foldl (fun acc (name, s) =>
      if acc.any (·.1 == name) then acc.map fun e => if e.1 == name then (name, s) else e
      else acc ++ [(name, s)]) []
  | v => .error (.invalidType v.found "a map")

/-- The keywords of an object, given a reader for the schemas in it. -/
def fields (schema : Decoder Schema) : Fields Schema :=
  (fun remarks types (_ : Option String) allowed (_ : Option Json) reference number text items
      required (_ _ : Option Nat) properties (_ : List (String × Schema))
      (_ _ _ _ _ _ : Option Schema) anyOf allOf oneOf =>
    .keywords ⟨remarks, types, allowed, reference, number, text, items, required⟩
      anyOf allOf oneOf properties)
    <$> remarksFields
    <*> .optional "type" types
    <*> .optional "format" .text
    <*> .optional "enum" (.list .json)
    <*> nullCounts "const"
    <*> .optional "$ref" .text
    <*> numberFields
    <*> textFields
    <*> itemFields schema
    <*> .withDefault "required" (.list .text) []
    <*> .optional "minProperties" .word32
    <*> .optional "maxProperties" .word32
    <*> .withDefault "properties" (named schema) []
    <*> .withDefault "patternProperties" (named schema) []
    <*> .optional "additionalProperties" schema
    <*> .optional "propertyNames" schema
    <*> .optional "not" schema
    <*> .optional "if" schema
    <*> .optional "then" schema
    <*> .optional "else" schema
    <*> .optional "anyOf" (.list schema)
    <*> .optional "allOf" (.list schema)
    <*> .optional "oneOf" (.list schema)

/-- Reads a schema nested at most so deep. -/
def decoder : Nat → Decoder Schema
  | 0, v => .error (.invalidType v.found "a schema")
  | _ + 1, .bool b => .ok (.trivial b)
  | depth + 1, .obj members =>
    match (fields (decoder depth)).fromMembers members with
    | .ok s => .ok s
    | .error e => .error e.cause
  | _ + 1, v => .error (.invalidType v.found "a schema")

end Schema

namespace RootSchema

/-- The names under which definitions may stand, of which only one occurs. -/
def definitionsName (members : List (String × Json)) : Option String :=
  match members.filter fun m => m.1 == "definitions" || m.1 == "$defs" with
  | [] => some "definitions"
  | [m] => some m.1
  | _ => none

/-- Reads a schema with its definitions, members in the order of the text. -/
def decoder : Decoder RootSchema
  | .obj members =>
    let schema := Schema.decoder Json.nestingLimit
    match definitionsName members with
    | none => .error (.duplicateField "definitions")
    | some name =>
      let fields : Fields RootSchema :=
        (fun (_ : Option String) definitions schema => ⟨schema, definitions⟩)
          <$> .optional "$schema" .text
          <*> .withDefault name (Schema.named schema) []
          <*> Schema.fields schema
      match fields.fromMembers members with
      | .ok s => .ok s
      | .error e => .error e.cause
  | v => .error (.invalidType v.found "a schema")

/-- The schema that a text spells. -/
def read? (text : String) : Option RootSchema :=
  match Json.readAsWritten text with
  | .ok v => (decoder v).toOption
  | .error _ => none

end RootSchema

end CasefileHub
