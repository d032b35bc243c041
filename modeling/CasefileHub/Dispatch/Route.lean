import CasefileHub.Workflow
import CasefileHub.Store
import CasefileHub.Policy
/-!
# Routes

An operation of the hub is routed to a method. Its handler first reads the payload of a request,
which calls no service, and only then stands ready to be called.
-/

namespace CasefileHub

structure Route (σ : Type) where
  operation : String
  method : String
  /-- The policy of requests that do not choose one. -/
  defaultPolicy : Option String := none
  /-- Reads a request, and gives the call that performs it. -/
  handler : Request Json → Except Json.DecodeError (Services σ → ServiceCall σ Json)

instance {σ : Type} : Named (Route σ) := ⟨Route.operation, .operation⟩

namespace Route

variable {σ : Type}

/-- A handler that works on typed requests and answers. -/
def typedHandler {Req Resp : Type} [Payload Req] [Payload Resp]
    (perform : Services σ → Request Req → ServiceCall σ Resp) (r : Request Json) :
    Except Json.DecodeError (Services σ → ServiceCall σ Json) := do
  let typed ← r.typed Req
  return fun services => Payload.toJson <$> perform services typed

/-- An operation of the same name as its method. -/
def typed {Req Resp : Type} [Payload Req] [Payload Resp] (name : String)
    (perform : Services σ → Request Req → ServiceCall σ Resp)
    (defaultPolicy : Option String := none) : Route σ :=
  ⟨name, name, defaultPolicy, typedHandler perform⟩

def createCasefile : Route σ := .typed OperationName.createCasefile Services.createCasefile
def getCasefile : Route σ := .typed OperationName.getCasefile Services.getCasefile
def addSession : Route σ := .typed OperationName.addSession Services.addSession
def createSession : Route σ := .typed OperationName.createSession Services.createSession

def processChat : Route σ :=
  .typed OperationName.processChat Services.processChat (some PolicyPattern.sessionObserverName)

def createCasefileWithSession : Route σ :=
  .typed OperationName.createCasefileWithSession Workflow.createCasefileWithSession

def builtin : List (Route σ) := [createCasefile, getCasefile, addSession, createSession,
  processChat, createCasefileWithSession]

/-- The routes of the built-in operations. -/
def builtinTable : Registry (Route σ) := builtin.foldl Registry.replace .empty

/-- The route to a method; of several the one whose operation comes first by name. -/
def toMethod? (routes : Registry (Route σ)) (method : String) : Option (Route σ) :=
  routes.toList.find? (·.method == method)

end Route

end CasefileHub
