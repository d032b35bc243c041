import CasefileHub.Violation
/-!
# Parameters

A parameter has a name, a JSON type and constraints on its value. Specifications are written with
every field, null for an absent one, and read back from such an object.
-/

namespace CasefileHub

inductive ParameterType where
  | string | integer | number | boolean | array | object | any
deriving DecidableEq, Repr

namespace ParameterType

def all : List ParameterType := [.string, .integer, .number, .boolean, .array, .object, .any]

def text : ParameterType → String
  | .string => "string"
  | .integer => "integer"
  | .number => "number"
  | .boolean => "boolean"
  | .array => "array"
  | .object => "object"
  | .any => "any"

/-- Whether a value has the type; a number with a fraction part is no integer, whatever it is. -/
def admits : ParameterType → Json → Bool
  | .string, .str _ => true
  | .integer, .num (.int _) => true
  | .number, .num _ => true
  | .boolean, .bool _ => true
  | .array, .arr _ => true
  | .object, .obj _ => true
  | .any, _ => true
  | _, _ => false

def decoder : Decoder ParameterType := .choice (all.map fun t => (t.text, t))

end ParameterType

/-- The specification of one parameter. The default stands in for an absent value. -/
structure ParameterSpec where
  name : String
  type : ParameterType
  required : Bool := false
  description : Option String := none
  default : Option Json := none
  minValue : Option Bound := none
  maxValue : Option Bound := none
  minLength : Option Nat := none
  maxLength : Option Nat := none
  allowed : Option (List Json) := none
  pattern : Option String := none
deriving DecidableEq, Repr

namespace ParameterSpec

def toJson (s : ParameterSpec) : Json :=
  .obj [("default", s.default.getD .null),
    ("description", .ofOption .str s.description),
    ("enum", .ofOption .arr s.allowed),
    ("max_length", .ofOption .nat s.maxLength),
    ("max_value", .ofOption Bound.toJson s.maxValue),
    ("min_length", .ofOption .nat s.minLength),
    ("min_value", .ofOption Bound.toJson s.minValue),
    ("name", .str s.name),
    ("pattern", .ofOption .str s.pattern),
    ("required", .bool s.required),
    ("type", .str s.type.text)]

def decoder : Decoder ParameterSpec :=
  .record "ParameterSpec" <|
    mk <$> .required "name" .text
      <*> .required "type" ParameterType.decoder
      <*> .withDefault "required" .bool false
      <*> .optional "description" .text
      <*> .optional "default" .json
      <*> .optional "min_value" Bound.decoder
      <*> .optional "max_value" Bound.decoder
      <*> .optional "min_length" .count
      <*> .optional "max_length" .count
      <*> .optional "enum" (.list .json)
      <*> .optional "pattern" .text

end ParameterSpec

end CasefileHub
