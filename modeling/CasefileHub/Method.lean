import CasefileHub.Classification
import CasefileHub.Parameter
import CasefileHub.Registry
/-!
# Methods

A method is a registered piece of business functionality: classified, owned by a service, with rules
and the models of its request and response. The parameters are those of the request model.
-/

namespace CasefileHub

/-- Where a method is implemented. -/
structure Owner where
  service : String
  module : String := ""
  function : String := ""
deriving DecidableEq, Repr

structure Deprecation where
  since : String
  removal : Option String := none
  replacement : Option String := none
deriving DecidableEq, Repr

structure MethodRules where
  requiredPermissions : List String := []
  idempotent : Bool := false
  transactional : Bool := false
  deprecation : Option Deprecation := none
deriving DecidableEq, Repr

structure Method where
  name : String
  description : String := ""
  classification : Classification
  owner : Owner
  rules : MethodRules := {}
  requestModel : String
  responseModel : String
  parameters : List ParameterSpec := []
deriving DecidableEq, Repr

instance : Named Method := ⟨Method.name, .method⟩

namespace Owner

def toJson (o : Owner) : Json :=
  .obj [("function", .str o.function), ("module", .str o.module), ("service", .str o.service)]

def decoder : Decoder Owner :=
  .record "OwnerRef" <|
    mk <$> .required "service" .text
      <*> .withDefault "module" .text ""
      <*> .withDefault "function" .text ""

end Owner

namespace Deprecation

def toJson (d : Deprecation) : Json :=
  .obj [("removal", .ofOption .str d.removal), ("replacement", .ofOption .str d.replacement),
    ("since", .str d.since)]

def decoder : Decoder Deprecation :=
  .record "Deprecation" <|
    mk <$> .required "since" .text
      <*> .optional "removal" .text
      <*> .optional "replacement" .text

end Deprecation

namespace MethodRules

def toJson (r : MethodRules) : Json :=
  .obj [("deprecation", .ofOption Deprecation.toJson r.deprecation),
    ("idempotent", .bool r.idempotent),
    ("required_permissions", .strings r.requiredPermissions),
    ("transactional", .bool r.transactional)]

def decoder : Decoder MethodRules :=
  .record "MethodBusinessRules" <|
    mk <$> .withDefault "required_permissions" (.list .text) []
      <*> .withDefault "idempotent" .bool false
      <*> .withDefault "transactional" .bool false
      <*> .optional "deprecation" Deprecation.decoder

end MethodRules

namespace Method

def toJson (m : Method) : Json :=
  .obj [("business_rules", m.rules.toJson),
    ("classification", m.classification.toJson),
    ("description", .str m.description),
    ("name", .str m.name),
    ("owner", m.owner.toJson),
    ("parameters", .arr (m.parameters.map ParameterSpec.toJson)),
    ("request_model", .str m.requestModel),
    ("response_model", .str m.responseModel)]

def decoder : Decoder Method :=
  .record "MethodDescriptor" <|
    mk <$> .required "name" .text
      <*> .withDefault "description" .text ""
      <*> .required "classification" Classification.decoder
      <*> .required "owner" Owner.decoder
      <*> .withDefault "business_rules" MethodRules.decoder {}
      <*> .required "request_model" .text
      <*> .required "response_model" .text
      <*> .withDefault "parameters" (.list ParameterSpec.decoder) []

/-- The required permissions that are not granted, in order. -/
def missing (required granted : List String) : List String := required.filter (!granted.contains ·)

/-- Every required permission is granted. -/
def permits (m : Method) (granted : List String) : Bool :=
  m.rules.requiredPermissions.all granted.contains

/-! ## Listing by a field -/

inductive Filter where
  | domain (d : Domain)
  | subdomain (s : Subdomain)
  | capability (v : Verb)
  | service (name : String)
deriving DecidableEq, Repr

/-- A filter for a field and a declared value; none for another field or an unknown term. -/
def Filter.parse? (field value : String) : Option Filter :=
  match field with
  | "domain" => (Vocabulary.parse? value).map .domain
  | "subdomain" => (Vocabulary.parse? value).map .subdomain
  | "capability" => (Vocabulary.parse? value).map .capability
  | "service" => some (.service value)
  | _ => none

def Filter.accepts (m : Method) : Filter → Bool
  | .domain d => m.classification.domain == d
  | .subdomain s => m.classification.subdomain == s
  | .capability v => m.classification.capability == v
  | .service name => m.owner.service == name

end Method

end CasefileHub
