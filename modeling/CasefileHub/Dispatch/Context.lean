import CasefileHub.Dispatch.Event
import CasefileHub.Policy
import CasefileHub.Service
/-!
# The context of a dispatch

The requirements and hooks of the policy followed by those of the request, each once; the session
and the casefile of the request, as far as they are required, named and found; and what hooks
record. Neither a record that is missing nor a repository that fails stops a dispatch.
-/

namespace CasefileHub

structure DispatchContext where
  requestId : String := ""
  operation : String := ""
  userId : Option String := none
  sessionId : Option String := none
  /-- The pattern that the defaults come from. -/
  policy : String := ""
  contextRequirements : List String := []
  hooks : List String := []
  session : Option ToolSession := none
  casefile : Option Casefile := none
  hookEvents : List HookEvent := []
  auditLog : List AuditEntry := []
  skippedHooks : List String := []
deriving DecidableEq, Repr

/-- Each name once, where it stands first. -/
def firstOccurrences (names : List String) : List String := names.eraseDups

namespace DispatchContext

/-- The requirement of the request's session. -/
def sessionRequirement : String := "session"

/-- The requirement of the request's casefile. -/
def casefileRequirement : String := "casefile"

/-- The context of a request before anything is fetched. -/
def resolve (r : Request Json) (policy : String) (defaults : PolicyDefaults) :
    DispatchContext where
  requestId := r.requestId
  operation := r.operation
  userId := r.userId
  sessionId := r.sessionId
  policy := policy
  contextRequirements :=
    firstOccurrences (defaults.contextRequirements ++ r.contextRequirements)
  hooks := firstOccurrences (defaults.hooks ++ r.hooks)

def requires (c : DispatchContext) (requirement : String) : Bool :=
  c.contextRequirements.contains requirement

/-- What a repository finds; nothing, if it fails. -/
def found {σ α : Type} (call : ServiceCall σ (Option α)) : Timed σ (Option α) := do
  match ← call.run with
  | .ok a => return a
  | .error _ => return none

/-- Fetches a record of some id, if there is one. -/
def fetch {σ α : Type} (repository : String → ServiceCall σ (Option α)) (id : Option String) :
    Timed σ (Option α) :=
  match id with
  | some id => found (repository id)
  | none => return none

/-- The context of a request with the records that it requires: first the session and then the
casefile. -/
def prepare {σ : Type} (services : Services σ) (r : Request Json) (policy : String)
    (defaults : PolicyDefaults) : Timed σ DispatchContext := do
  let c := resolve r policy defaults
  let session ← fetch services.session?
    (if c.requires sessionRequirement then r.sessionId else none)
  let casefile ← fetch services.casefile?
    (if c.requires casefileRequirement then r.casefile? else none)
  return { c with session := session, casefile := casefile }

/-! ## Metadata of the response -/

/-- The response with what hooks recorded in its metadata. -/
def attach (c : DispatchContext) (r : Response) : Response :=
  let r := r.annotate "hook_events" (.arr (c.hookEvents.map HookEvent.toJson))
  if c.auditLog.isEmpty then r
  else r.annotate "audit_log" (.arr (c.auditLog.map AuditEntry.toJson))

/-- The response with the hooks that were skipped in its metadata. -/
def attachSkipped (c : DispatchContext) (r : Response) : Response :=
  if c.skippedHooks.isEmpty then r else r.annotate "skipped_hooks" (.strings c.skippedHooks)

end DispatchContext

end CasefileHub
