import CasefileHub.Catalog.Consistency
import CasefileHub.Config
import CasefileHub.Dispatch.Hook
import CasefileHub.Dispatch.Route
import CasefileHub.Invocation.Caller
import CasefileHub.Parameter.Validation
/-!
# The hub

Dispatches requests. A request of an unknown operation and one whose payload does not read are
refused, before any hook or service is called. Every other request gets a response: the operation
runs under the deadline, and a failure of its own or of time becomes a failed response. Hooks run
before the operation and after it, whatever its outcome.
-/

namespace CasefileHub

structure Hub (σ : Type) where
  catalog : Catalog
  operations : Registry (Route σ)
  policies : PolicyLibrary
  hooks : Registry (Hook σ)
  services : Services σ
  config : HubConfig

namespace Hub

variable {σ : Type}

/-- A hub with the built-in operations, policies and hooks. -/
def standard (catalog : Catalog) (services : Services σ) (config : HubConfig) : Hub σ where
  catalog := catalog
  operations := Route.builtinTable
  policies := .builtin
  hooks := Hook.builtin
  services := services
  config := config

/-- A hub over the built-in catalog and a store. -/
def inMemory (config : HubConfig) : Hub Store := standard .builtin Store.services config

/-- The issues of the catalog and the operations. -/
def consistency (h : Hub σ) : List ConsistencyIssue := h.catalog.consistency h.operations.names

/-- The policy that a request asks for: by its hint, else by its route, else by the settings. -/
def requestedPolicy (h : Hub σ) (r : Request Json) : String :=
  let ofRoute := (h.operations.get? r.operation).bind Route.defaultPolicy
  (r.policyHints.pattern.or ofRoute).getD h.config.defaultPolicy

/-- The pattern that the requested policy stands for. -/
def selectPolicy (h : Hub σ) (r : Request Json) : String := h.policies.resolve (h.requestedPolicy r)

/-! ## Dispatch -/

/-- The failure of an operation whose deadline passes. -/
def timeout (operation : String) (millis : Nat) : ErrorInfo :=
  ⟨"timeout", operation ++ " exceeded " ++ Nat.repr millis ++ " ms"⟩

/-- The outcome of an operation under the deadline of the settings. -/
def outcome (h : Hub σ) (operation : String) (call : ServiceCall σ Json) :
    Timed σ (Except ErrorInfo Json) := do
  match ← Timed.withinOption h.config.operationTimeout call.run with
  | some (.ok payload) => return .ok payload
  | some (.error e) => return .error ⟨e.kind, e.message⟩
  | none => return .error (timeout operation (h.config.timeoutMillis.getD 0))

/-- The context of a request after the hooks of the first stage. -/
def begin (h : Hub σ) (r : Request Json) : Timed σ DispatchContext := do
  let policy := h.selectPolicy r
  let c ← DispatchContext.prepare h.services r policy (h.policies.defaults policy)
  let skipped := Hook.unknown h.hooks c
  let c ← Hook.runStage h.hooks .pre none c
  return if h.config.warnOnUnknownHooks && !skipped.isEmpty then { c with skippedHooks := skipped }
    else c

/-- The response to a request, after the hooks of the second stage. -/
def finish (h : Hub σ) (r : Request Json) (c : DispatchContext) (result : Except ErrorInfo Json) :
    Timed σ Response := do
  let response := Response.ofOutcome r.requestId result
  let c ← Hook.runStage h.hooks .post (some response) c
  return c.attachSkipped (c.attach response)

/-- Performs a request whose payload has been read. -/
def perform (h : Hub σ) (r : Request Json) (call : Services σ → ServiceCall σ Json) :
    Timed σ Response := do
  let c ← h.begin r
  let result ← h.outcome r.operation (call h.services)
  h.finish r c result

/-- The call that performs a request, or why the request is refused. -/
def accept (h : Hub σ) (r : Request Json) : Except HubError (Services σ → ServiceCall σ Json) :=
  match h.operations.get? r.operation with
  | none => .error (.unsupported r.operation)
  | some route =>
    match route.handler r with
    | .error e => .error (.invalid (Request.undecodable e))
    | .ok call => .ok call

def dispatch (h : Hub σ) (r : Request Json) : Timed σ (Except HubError Response) :=
  match h.accept r with
  | .error e => return .error e
  | .ok call => .ok <$> h.perform r call

/-! ## Methods -/

/-- The request of a caller for an operation. -/
def requestOf (caller : Caller) (requestId operation : String) (params : Parameters) :
    Request Json where
  requestId := requestId
  sessionId := caller.sessionId
  userId := caller.userId
  operation := operation
  payload := params.toJson
  metadata :=
    match caller.casefileId with
    | some id => .insert .empty Request.casefileKey (.str id)
    | none => .empty

/-- The payload of a completed response, or the error of a failed one. -/
def payload (operation : String) (r : Response) : Except HubError Json :=
  if r.isCompleted then .ok r.payload
  else
    let e := r.error.getD ⟨"execution_error", operation ++ " failed"⟩
    .error (.execution e.kind e.message)

/-- Performs the operation that is routed to a method. -/
def executeMethod (h : Hub σ) (method : String) (params : Parameters) (caller : Caller) :
    Timed σ (Except HubError Json) :=
  match Route.toMethod? h.operations method with
  | none => return .error (.unsupported method)
  | some route => do
    let n ← Timed.fresh
    let answer ← h.dispatch (requestOf caller (Identifier.request n) route.operation params)
    return answer.bind (payload route.operation)

end Hub

end CasefileHub
