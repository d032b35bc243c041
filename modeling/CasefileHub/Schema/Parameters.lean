import CasefileHub.Schema
import CasefileHub.Parameter
/-!
# Parameters of a schema

Each property of a schema is a parameter. A property may be a wrapper around another schema: a
reference to a definition, or a combination with a single member that is not null. Constraints come
from the innermost schema, the description and the default from the outermost schema with
annotations.

    Schema.step root s        the schema inside a wrapper, none if `s` is no wrapper
    Schema.unwrap root s      the schema inside all wrappers, annotated from outside
-/

namespace CasefileHub

namespace Schema

def remarks : Schema → Option Remarks
  | .keywords facts .. => facts.remarks
  | .trivial _ => none

/-- The facts of a schema, none for a trivial one. -/
def factsOf : Schema → SchemaFacts
  | .keywords facts .. => facts
  | .trivial _ => {}

/-- A schema of the single type null. -/
def isNull : Schema → Bool
  | .keywords facts .. => facts.types == some (.single .null)
  | .trivial _ => false

/-- A reference without the path in front of the definition's name, however often it stands
there. -/
def stripPath (path : List Char) : Nat → List Char → List Char
  | 0, cs => cs
  | fuel + 1, cs => if path.isPrefixOf cs then stripPath path fuel (cs.drop path.length) else cs

def definitionName (reference : String) : String :=
  let cs := reference.toList
  String.ofList (stripPath "#/definitions/".toList cs.length cs)

/-- The schema that a wrapper wraps: the definition of a reference, else the one member that is not
null of the first combination there is. -/
def step (definitions : List (String × Schema)) : Schema → Option Schema
  | .trivial _ => none
  | .keywords facts anyOf allOf oneOf _ =>
    match facts.reference.bind fun r => definitions.lookup (definitionName r) with
    | some target => some target
    | none =>
      match (anyOf.or (allOf.or oneOf)).map (·.filter (!·.isNull)) with
      | some [s] => some s
      | _ => none

/-- The facts inside all wrappers, at most `fuel` of them, under the outermost remarks. -/
def unwrap (definitions : List (String × Schema)) : Nat → Schema → SchemaFacts
  | 0, s => s.factsOf
  | fuel + 1, s =>
    match step definitions s with
    | none => s.factsOf
    | some inner =>
      let facts := unwrap definitions fuel inner
      match s.remarks with
      | some a => { facts with remarks := some a }
      | none => facts

mutual

/-- The number of schemas in a schema, itself among them. -/
def weight : Schema → Nat
  | .trivial _ => 1
  | .keywords _ anyOf allOf oneOf properties =>
    1 + weightOption anyOf + weightOption allOf + weightOption oneOf + weightNamed properties
termination_by structural s => s

def weightOption : Option (List Schema) → Nat
  | none => 0
  | some l => weightList l
termination_by structural l => l

def weightList : List Schema → Nat
  | [] => 0
  | s :: rest => weight s + weightList rest
termination_by structural l => l

def weightNamed : List (String × Schema) → Nat
  | [] => 0
  | e :: rest => weightEntry e + weightNamed rest
termination_by structural l => l

def weightEntry : String × Schema → Nat
  | (_, s) => weight s
termination_by structural e => e

end

end Schema

namespace SchemaFacts

/-- The type of a parameter: the first that is not null, or that of the first allowed value. -/
def parameterType (f : SchemaFacts) : ParameterType :=
  let primary := match f.types with
    | some (.single t) => some t
    | some (.several ts) => ts.find? (· ≠ InstanceType.null)
    | none => none
  match primary with
  | some .string => .string
  | some .integer => .integer
  | some .number => .number
  | some .boolean => .boolean
  | some .array => .array
  | some .object => .object
  | some .null | none =>
    match f.allowed with
    | some (.str _ :: _) => .string
    | _ => .any

/-- The parameter of a property with these facts. Bounds on items replace bounds on length. -/
def parameter (name : String) (required : Bool) (f : SchemaFacts) : ParameterSpec where
  name := name
  type := f.parameterType
  required := required
  description := f.remarks.bind (·.description)
  default := f.remarks.bind (·.default)
  minValue := f.number.bind (·.minimum)
  maxValue := f.number.bind (·.maximum)
  minLength := match f.items with
    | some b => b.minItems
    | none => f.text.bind (·.minLength)
  maxLength := match f.items with
    | some b => b.maxItems
    | none => f.text.bind (·.maxLength)
  allowed := f.allowed
  pattern := f.text.bind (·.pattern)

end SchemaFacts

namespace RootSchema

def properties (r : RootSchema) : List (String × Schema) :=
  match r.schema with
  | .keywords _ _ _ _ properties => properties
  | .trivial _ => []

/-- More steps than a chain of wrappers without a cycle can have. -/
def wrapperLimit (r : RootSchema) : Nat := r.schema.weight + Schema.weightNamed r.definitions

/-- One parameter for each property, in order. -/
def parameters (r : RootSchema) : List ParameterSpec :=
  r.properties.map fun (name, s) =>
    (s.unwrap r.definitions r.wrapperLimit).parameter name
      (r.schema.factsOf.required.contains name)

end RootSchema

end CasefileHub
