import CasefileHub.Method
import CasefileHub.Parameter.Validation
/-!
# Tools

A tool is what callers invoke: a description, rules for its use, parameters, and perhaps the name of
a method it is bound to. An empty method name binds to nothing.
-/

namespace CasefileHub

structure ToolMetadata where
  name : String
  displayName : String := ""
  description : String := ""
  category : String := ""
  version : String := "1.0.0"
  tags : List String := []
  docLinks : List String := []
deriving DecidableEq, Repr

/-- Who may use a tool, how often and for how long. No roles means any role. -/
structure ToolRules where
  enabled : Bool := true
  deprecated : Bool := false
  deprecationMessage : Option String := none
  requiresAuth : Bool := false
  requiredPermissions : List String := []
  allowedRoles : List String := []
  perMinute : Option Nat := none
  perHour : Option Nat := none
  timeoutSeconds : Option Nat := some 30
  maxRetries : UInt32 := 0
  requiresCasefile : Bool := false
deriving DecidableEq, Repr

structure Tool where
  info : ToolMetadata
  rules : ToolRules := {}
  parameters : List ParameterSpec := []
  methodName : Option String := none
deriving DecidableEq, Repr

instance : Named Tool := ⟨fun t => t.info.name, .tool⟩

namespace ToolMetadata

def toJson (m : ToolMetadata) : Json :=
  .obj [("category", .str m.category), ("description", .str m.description),
    ("display_name", .str m.displayName), ("doc_links", .strings m.docLinks),
    ("name", .str m.name), ("tags", .strings m.tags), ("version", .str m.version)]

def decoder : Decoder ToolMetadata :=
  .record "ToolMetadata" <|
    mk <$> .required "name" .text
      <*> .withDefault "display_name" .text ""
      <*> .withDefault "description" .text ""
      <*> .withDefault "category" .text ""
      <*> .withDefault "version" .text "1.0.0"
      <*> .withDefault "tags" (.list .text) []
      <*> .withDefault "doc_links" (.list .text) []

end ToolMetadata

namespace ToolRules

def toJson (r : ToolRules) : Json :=
  .obj [("allowed_roles", .strings r.allowedRoles),
    ("deprecated", .bool r.deprecated),
    ("deprecation_message", .ofOption .str r.deprecationMessage),
    ("enabled", .bool r.enabled),
    ("max_retries", .nat r.maxRetries.toNat),
    ("rate_limit_per_hour", .ofOption .nat r.perHour),
    ("rate_limit_per_minute", .ofOption .nat r.perMinute),
    ("required_permissions", .strings r.requiredPermissions),
    ("requires_auth", .bool r.requiresAuth),
    ("requires_casefile", .bool r.requiresCasefile),
    ("timeout_seconds", .ofOption .nat r.timeoutSeconds)]

def decoder : Decoder ToolRules :=
  .record "ToolBusinessRules" <|
    mk <$> .withDefault "enabled" .bool true
      <*> .withDefault "deprecated" .bool false
      <*> .optional "deprecation_message" .text
      <*> .withDefault "requires_auth" .bool false
      <*> .withDefault "required_permissions" (.list .text) []
      <*> .withDefault "allowed_roles" (.list .text) []
      <*> .optional "rate_limit_per_minute" .word32
      <*> .optional "rate_limit_per_hour" .word32
      <*> .withDefault "timeout_seconds" (.option .word64) (some 30)
      <*> .withDefault "max_retries" .uint32 0
      <*> .withDefault "requires_casefile" .bool false

end ToolRules

namespace Tool

def name (t : Tool) : String := t.info.name

def toJson (t : Tool) : Json :=
  .obj [("business_rules", t.rules.toJson),
    ("metadata", t.info.toJson),
    ("method_name", .ofOption .str t.methodName),
    ("parameters", .arr (t.parameters.map ParameterSpec.toJson))]

def decoder : Decoder Tool :=
  .record "ToolDescriptor" <|
    mk <$> .required "metadata" ToolMetadata.decoder
      <*> .withDefault "business_rules" ToolRules.decoder {}
      <*> .withDefault "parameters" (.list ParameterSpec.decoder) []
      <*> .optional "method_name" .text

/-- The method the tool is bound to, if its name is not empty. -/
def binding (t : Tool) : Option String := t.methodName.filter (!·.isEmpty)

def isBound (t : Tool) : Bool := t.binding.isSome

/-- The parameters of raw arguments, or all violations. -/
def validate (t : Tool) (raw : Json) : Except (List Violation) Parameters :=
  ParameterSpec.validate t.parameters raw

/-- Binds to a method, adopting its parameters where the tool has none. -/
def bind (t : Tool) (m : Method) : Tool :=
  { t with
    methodName := some m.name
    parameters := if t.parameters.isEmpty then m.parameters else t.parameters }

/-! ## Listing by a field -/

inductive Filter where
  | category (c : String)
  | tag (t : String)
  | method (m : String)
deriving DecidableEq, Repr

def Filter.accepts (t : Tool) : Filter → Bool
  | .category c => t.info.category == c
  | .tag label => t.info.tags.contains label
  | .method m => t.methodName == some m

end Tool

end CasefileHub
