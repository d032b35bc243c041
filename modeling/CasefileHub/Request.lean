import CasefileHub.Table
import CasefileHub.Json.Decode
import CasefileHub.Payload
/-!
# Requests

A request names an operation and carries its payload, with whom it is for, what context and hooks it
asks for and hints for the choice of a policy. The payload is a JSON value on the wire and a typed
payload inside; everything else stays the same when it is read.
-/

namespace CasefileHub

/-- The members of an object, as a table. -/
def Decoder.table : Decoder (Table Json) := fun v => Table.ofList <$> Decoder.members v

def Json.ofTable (t : Table Json) : Json := .obj t.entries

/-- What a request says about its policy: the name of a pattern, and whatever else. -/
structure PolicyHints where
  pattern : Option String := none
  extra : Table Json := .empty
deriving DecidableEq, Repr

namespace PolicyHints

def patternKey : String := "pattern"

def toJson (h : PolicyHints) : Json :=
  match h.pattern with
  | some p => .ofTable (h.extra.insert patternKey (.str p))
  | none => .ofTable h.extra

def decoder : Decoder PolicyHints
  | .obj members =>
    match (Fields.optional patternKey .text).fromMembers members with
    | .ok pattern =>
      (fun all => ⟨pattern, (Table.ofList all).erase patternKey⟩) <$>
        Decoder.members (.obj members)
    | .error e => .error e.cause
  | v => Decoder.mismatch v "struct PolicyHints"

end PolicyHints

structure Request (P : Type) where
  requestId : String
  sessionId : Option String := none
  userId : Option String := none
  operation : String
  payload : P
  metadata : Table Json := .empty
  contextRequirements : List String := []
  hooks : List String := []
  policyHints : PolicyHints := {}
  routeDirectives : Table Json := .empty
deriving DecidableEq, Repr

namespace Request

variable {P Q : Type}

/-- The metadata key of the casefile that a request is about. -/
def casefileKey : String := "casefile_id"

/-- The metadata key of the request that a request is part of. -/
def parentKey : String := "parent_request_id"

def toJsonWith (write : P → Json) (r : Request P) : Json :=
  .obj [("context_requirements", .strings r.contextRequirements),
    ("hooks", .strings r.hooks),
    ("metadata", .ofTable r.metadata),
    ("operation", .str r.operation),
    ("payload", write r.payload),
    ("policy_hints", r.policyHints.toJson),
    ("request_id", .str r.requestId),
    ("route_directives", .ofTable r.routeDirectives),
    ("session_id", .ofOption .str r.sessionId),
    ("user_id", .ofOption .str r.userId)]

def toJson [Payload P] (r : Request P) : Json := r.toJsonWith Payload.toJson

/-- The names of the fields, in order. -/
def fieldNames : List String :=
  ["request_id", "session_id", "user_id", "operation", "payload", "metadata",
    "context_requirements", "hooks", "policy_hints", "route_directives"]

/-- Reads a request; one without an id gets the given one. -/
def decoder (freshId : String) : Decoder (Request Json) :=
  .record "RequestEnvelope" <|
    mk <$> .withDefault "request_id" .text freshId
      <*> .optional "session_id" .text
      <*> .optional "user_id" .text
      <*> .required "operation" .text
      <*> .required "payload" .json
      <*> .withDefault "metadata" .table .empty
      <*> .withDefault "context_requirements" (.list .text) []
      <*> .withDefault "hooks" (.list .text) []
      <*> .withDefault "policy_hints" PolicyHints.decoder {}
      <*> .withDefault "route_directives" .table .empty

def withPayload (r : Request P) (payload : Q) : Request Q := { r with payload := payload }

/-- The request with its payload read. -/
def typed (Q : Type) [Payload Q] (r : Request Json) : Except Json.DecodeError (Request Q) :=
  r.withPayload <$> Payload.decoder r.payload

/-- A payload that does not read violates the payload as a whole. -/
def undecodable (e : Json.DecodeError) : List Violation := [⟨"payload", .undecodable e⟩]

/-- The casefile that the metadata name. -/
def metadataCasefile? (r : Request P) : Option String :=
  (r.metadata.get? casefileKey).bind Json.text?

/-- The casefile that a request is about: by its metadata, else by its payload. -/
def casefile? (r : Request Json) : Option String :=
  r.metadataCasefile?.or ((r.payload.member? casefileKey).bind Json.text?)

/-- A part of a request: for the same user and session, and without hooks of its own. -/
def part (r : Request P) (requestId operation : String) (payload : Q) : Request Q where
  requestId := requestId
  sessionId := r.sessionId
  userId := r.userId
  operation := operation
  payload := payload
  metadata := .insert .empty parentKey (.str r.requestId)

def withMetadata (r : Request P) (key : String) (value : Json) : Request P :=
  { r with metadata := r.metadata.insert key value }

end Request

end CasefileHub
