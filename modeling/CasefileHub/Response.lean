import CasefileHub.Request
/-!
# Responses

A response has a status and either the payload of a completed request or the error of a failed one,
and metadata that hooks leave behind.
-/

namespace CasefileHub

inductive RequestStatus where
  | pending | inProgress | completed | failed
deriving DecidableEq, Repr

namespace RequestStatus

def text : RequestStatus → String
  | .pending => "PENDING"
  | .inProgress => "IN_PROGRESS"
  | .completed => "COMPLETED"
  | .failed => "FAILED"

def toJson (s : RequestStatus) : Json := .str s.text

def decoder : Decoder RequestStatus :=
  .choice ([.pending, .inProgress, .completed, .failed].map fun s => (s.text, s))

end RequestStatus

/-- Why a request failed: the kind for machines, the message for people. -/
structure ErrorInfo where
  kind : String
  message : String
deriving DecidableEq, Repr

namespace ErrorInfo

def toJson (e : ErrorInfo) : Json := .obj [("kind", .str e.kind), ("message", .str e.message)]

def decoder : Decoder ErrorInfo :=
  .record "ErrorInfo" <| mk <$> .required "kind" .text <*> .required "message" .text

end ErrorInfo

/-- A member of an object that is left out when there is no value. -/
def Json.memberOf (name : String) (write : α → Json) : Option α → List (String × Json)
  | some a => [(name, write a)]
  | none => []

structure Response where
  requestId : String
  status : RequestStatus
  payload : Json
  error : Option ErrorInfo := none
  metadata : Table Json := .empty
deriving DecidableEq, Repr

namespace Response

def toJson (r : Response) : Json :=
  .obj (Json.memberOf "error" ErrorInfo.toJson r.error ++
    [("metadata", .ofTable r.metadata),
      ("payload", r.payload),
      ("request_id", .str r.requestId),
      ("status", r.status.toJson)])

def decoder : Decoder Response :=
  .record "ResponseEnvelope" <|
    mk <$> .required "request_id" .text
      <*> .required "status" RequestStatus.decoder
      <*> .required "payload" .json
      <*> .optional "error" ErrorInfo.decoder
      <*> .withDefault "metadata" .table .empty

def completed (requestId : String) (payload : Json) : Response where
  requestId := requestId
  status := .completed
  payload := payload

def failed (requestId : String) (error : ErrorInfo) : Response where
  requestId := requestId
  status := .failed
  payload := .null
  error := some error

/-- The response to a request from the outcome of its operation. -/
def ofOutcome (requestId : String) : Except ErrorInfo Json → Response
  | .ok payload => completed requestId payload
  | .error e => failed requestId e

def isCompleted (r : Response) : Bool := r.status == .completed

/-- The response with a value in its metadata, unless the key is taken. -/
def annotate (r : Response) (key : String) (value : Json) : Response :=
  if r.metadata.contains key then r else { r with metadata := r.metadata.insert key value }

end Response

end CasefileHub
