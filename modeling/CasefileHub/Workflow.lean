import CasefileHub.Service
import CasefileHub.Identifier
import CasefileHub.Catalog.Builtin
/-!
# The composite operation

A casefile is created and, unless the request declines it, a session in it, which is then linked. The
steps run in this order, each as a part of the request, and the first that fails ends the workflow
with its error; what the steps before it did stays.
-/

namespace CasefileHub.Workflow

variable {σ : Type}

/-- A part of a request with a fresh id. -/
def part {P Q : Type} (r : Request P) (operation : String) (payload : Q) :
    ServiceCall σ (Request Q) := do
  let n ← ExceptT.lift Timed.fresh
  return r.part (Identifier.request n) operation payload

def createCasefileWithSession (services : Services σ) (r : Request CreateCasefileWithSession) :
    ServiceCall σ CasefileWithSessionCreated := do
  let p := r.payload
  let create ← part r OperationName.createCasefile (CreateCasefile.mk p.title p.description p.tags)
  let casefileId := (← services.createCasefile create).casefileId
  if !p.autoStartSession then return ⟨casefileId, none, []⟩
  let start ← part r OperationName.createSession (CreateSession.mk p.sessionTitle)
  let start := start.withMetadata Request.casefileKey (.str casefileId)
  let sessionId := (← services.createSession start).sessionId
  let link ← part r OperationName.addSession (AddSession.mk casefileId sessionId)
  let _ ← services.addSession link
  return ⟨casefileId, some sessionId, [⟨casefileId, sessionId⟩]⟩

end CasefileHub.Workflow
