import CasefileHub.Request
import CasefileHub.Timed
/-!
# Services

What the hub needs of others: two repositories to look records up, and services for casefiles,
sessions and chat. Any implementation may take time, fail and change the state that it works on.
-/

namespace CasefileHub

/-- A kind of record that can be missing. -/
inductive RecordKind where
  | casefile | toolSession
deriving DecidableEq, Repr

def RecordKind.text : RecordKind → String
  | .casefile => "Casefile"
  | .toolSession => "ToolSession"

/-- Why a service does not answer. -/
inductive ServiceError where
  | notFound (kind : RecordKind) (id : String)
  | invalid (text : String)
  | unavailable (text : String)
  | internal (text : String)
deriving DecidableEq, Repr

namespace ServiceError

def kind : ServiceError → String
  | .notFound _ _ => "not_found"
  | .invalid _ => "invalid_request"
  | .unavailable _ => "unavailable"
  | .internal _ => "internal"

def message : ServiceError → String
  | .notFound kind id => kind.text ++ " not found: " ++ id
  | .invalid text => "Invalid request: " ++ text
  | .unavailable text => "Service unavailable: " ++ text
  | .internal text => "Internal error: " ++ text

end ServiceError

/-- A call of a service. -/
abbrev ServiceCall (σ α : Type) := ExceptT ServiceError (Timed σ) α

/-- The collaborators of the hub, over a state. -/
structure Services (σ : Type) where
  /-- Looks a session up by its id. -/
  session? : String → ServiceCall σ (Option ToolSession)
  /-- Looks a casefile up by its id. -/
  casefile? : String → ServiceCall σ (Option Casefile)
  createCasefile : Request CreateCasefile → ServiceCall σ CasefileCreated
  getCasefile : Request GetCasefile → ServiceCall σ CasefileRead
  addSession : Request AddSession → ServiceCall σ SessionAdded
  createSession : Request CreateSession → ServiceCall σ SessionCreated
  processChat : Request Chat → ServiceCall σ ChatReply

/-- A call on a part of the state. -/
def ServiceCall.focus {σ τ α : Type} (view : σ → τ) (update : τ → σ → σ) (call : ServiceCall τ α) :
    ServiceCall σ α :=
  ExceptT.mk (Timed.focus view update call.run)

/-- Services that work on a part of the state. -/
def Services.focus {σ τ : Type} (view : σ → τ) (update : τ → σ → σ) (s : Services τ) :
    Services σ where
  session? id := (s.session? id).focus view update
  casefile? id := (s.casefile? id).focus view update
  createCasefile r := (s.createCasefile r).focus view update
  getCasefile r := (s.getCasefile r).focus view update
  addSession r := (s.addSession r).focus view update
  createSession r := (s.createSession r).focus view update
  processChat r := (s.processChat r).focus view update

end CasefileHub
