import CasefileHub.Method
import CasefileHub.Payload
/-!
# Capability records

A record declares a method in flat text. It resolves to a method when its six axes are terms and its
request model is known, whose parameters the method takes; otherwise every unknown axis is reported
in order, and then the unknown model.
-/

namespace CasefileHub

instance : Named Model := ⟨Model.name, .model⟩

structure CapabilityRecord where
  name : String
  domain : String
  subdomain : String
  capability : String
  complexity : String := "atomic"
  maturity : String := "stable"
  integrationTier : String := "internal"
  service : String
  module : String := ""
  function : String := ""
  requiredPermissions : List String := []
  requestModel : String
  responseModel : String
deriving DecidableEq, Repr

/-- Why a record does not resolve. -/
inductive RecordIssue where
  | term (u : UnknownTerm)
  | requestModel (name : String)
deriving DecidableEq, Repr

namespace RecordIssue

def message : RecordIssue → String
  | .term u => u.message
  | .requestModel name => "unknown request model '" ++ name ++ "'"

def toJson : RecordIssue → Json
  | .term u => .obj [("Classification", u.toJson)]
  | .requestModel name => .obj [("UnknownRequestModel", .str name)]

end RecordIssue

namespace CapabilityRecord

/-- The declared text of an axis. -/
def text (r : CapabilityRecord) : Axis → String
  | .domain => r.domain
  | .subdomain => r.subdomain
  | .capability => r.capability
  | .complexity => r.complexity
  | .maturity => r.maturity
  | .integrationTier => r.integrationTier

def classification (r : CapabilityRecord) : Except (List UnknownTerm) Classification :=
  Classification.ofTexts r.text

/-- The method of a record over the known models. -/
def resolve (models : Registry Model) (r : CapabilityRecord) :
    Except (List RecordIssue) Method :=
  match r.classification, models.get? r.requestModel with
  | .ok c, some model => .ok
      { name := r.name
        classification := c
        owner := ⟨r.service, r.module, r.function⟩
        rules := { requiredPermissions := r.requiredPermissions }
        requestModel := r.requestModel
        responseModel := r.responseModel
        parameters := model.parameters }
  | .ok _, none => .error [.requestModel r.requestModel]
  | .error us, some _ => .error (us.map .term)
  | .error us, none => .error (us.map .term ++ [.requestModel r.requestModel])

def toJson (r : CapabilityRecord) : Json :=
  .obj [("capability", .str r.capability), ("complexity", .str r.complexity),
    ("domain", .str r.domain), ("function", .str r.function),
    ("integration_tier", .str r.integrationTier), ("maturity", .str r.maturity),
    ("module", .str r.module), ("name", .str r.name),
    ("request_model", .str r.requestModel),
    ("required_permissions", .strings r.requiredPermissions),
    ("response_model", .str r.responseModel), ("service", .str r.service),
    ("subdomain", .str r.subdomain)]

def decoder : Decoder CapabilityRecord :=
  .record "CapabilityRecord" <|
    mk <$> .required "name" .text
      <*> .required "domain" .text
      <*> .required "subdomain" .text
      <*> .required "capability" .text
      <*> .withDefault "complexity" .text "atomic"
      <*> .withDefault "maturity" .text "stable"
      <*> .withDefault "integration_tier" .text "internal"
      <*> .required "service" .text
      <*> .withDefault "module" .text ""
      <*> .withDefault "function" .text ""
      <*> .withDefault "required_permissions" (.list .text) []
      <*> .required "request_model" .text
      <*> .required "response_model" .text

end CapabilityRecord

end CasefileHub
