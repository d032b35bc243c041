import CasefileHub.Response
import CasefileHub.Timestamp
/-!
# Events of a dispatch

What the built-in hooks record: events, and for audits an entry with the user and the session. Both
say at which stage and when, and at the later stage with which status.
-/

namespace CasefileHub

/-- When a hook runs: before the operation, or after it with its response. -/
inductive HookStage where
  | pre | post
deriving DecidableEq, Repr

namespace HookStage

def text : HookStage → String
  | .pre => "pre"
  | .post => "post"

def decoder : Decoder HookStage := .choice [("pre", .pre), ("post", .post)]

end HookStage

structure HookEvent where
  hook : String
  stage : HookStage
  operation : String
  timestamp : Timestamp
  status : Option RequestStatus := none
deriving DecidableEq, Repr

structure AuditEntry where
  operation : String
  userId : Option String
  sessionId : Option String
  stage : HookStage
  status : Option RequestStatus := none
  timestamp : Timestamp
deriving DecidableEq, Repr

namespace HookEvent

def toJson (e : HookEvent) : Json :=
  .obj ([("hook", .str e.hook), ("operation", .str e.operation)] ++
    Json.memberOf "response_status" RequestStatus.toJson e.status ++
    [("stage", .str e.stage.text), ("timestamp", e.timestamp.toJson)])

def decoder : Decoder HookEvent :=
  .record "HookEvent" <|
    mk <$> .required "hook" .text
      <*> .required "stage" HookStage.decoder
      <*> .required "operation" .text
      <*> .required "timestamp" Timestamp.decoder
      <*> .optional "response_status" RequestStatus.decoder

end HookEvent

namespace AuditEntry

def toJson (a : AuditEntry) : Json :=
  .obj ([("operation", .str a.operation), ("session_id", .ofOption .str a.sessionId),
      ("stage", .str a.stage.text)] ++
    Json.memberOf "status" RequestStatus.toJson a.status ++
    [("timestamp", a.timestamp.toJson), ("user_id", .ofOption .str a.userId)])

def decoder : Decoder AuditEntry :=
  .record "AuditEntry" <|
    mk <$> .required "operation" .text
      <*> .nullable "user_id" .text
      <*> .nullable "session_id" .text
      <*> .required "stage" HookStage.decoder
      <*> .optional "status" RequestStatus.decoder
      <*> .required "timestamp" Timestamp.decoder

end AuditEntry

end CasefileHub
