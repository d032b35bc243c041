import CasefileHub.Dispatch.Context
import CasefileHub.Registry
/-!
# Hooks

A hook runs at both stages of a dispatch. It may record in the context and act on the environment,
but it neither sees the request nor changes the response. The hooks of a context that are not in the
registry do not run.
-/

namespace CasefileHub

structure Hook (σ : Type) where
  name : String
  run : HookStage → Option Response → DispatchContext → Environment σ →
    DispatchContext × Environment σ

instance {σ : Type} : Named (Hook σ) := ⟨Hook.name, .hook⟩

namespace Hook

variable {σ : Type}

/-- The event of a hook that runs now. -/
def event (name : String) (stage : HookStage) (response : Option Response) (c : DispatchContext)
    (now : Timestamp) : HookEvent :=
  ⟨name, stage, c.operation, now, response.map Response.status⟩

/-- Records an event. -/
def metrics : Hook σ where
  name := "metrics"
  run stage response c e :=
    ({ c with hookEvents := c.hookEvents ++ [event "metrics" stage response c e.now] }, e)

/-- The audit entry of an event. -/
def entry (c : DispatchContext) (v : HookEvent) : AuditEntry :=
  ⟨v.operation, c.userId, c.sessionId, v.stage, v.status, v.timestamp⟩

/-- Records an event and an audit entry. -/
def audit : Hook σ where
  name := "audit"
  run stage response c e :=
    let v := event "audit" stage response c e.now
    ({ c with hookEvents := c.hookEvents ++ [v], auditLog := c.auditLog ++ [entry c v] }, e)

def builtin : Registry (Hook σ) := .replace (.replace .empty metrics) audit

/-- Runs the hooks of some names that are known, in order. -/
def runAll (hooks : Registry (Hook σ)) (stage : HookStage) (response : Option Response)
    (names : List String) (c : DispatchContext) (e : Environment σ) :
    DispatchContext × Environment σ :=
  names.foldl (fun (c, e) name =>
    match hooks.get? name with
    | some h => h.run stage response c e
    | none => (c, e)) (c, e)

/-- Runs the hooks of a context. -/
def runStage (hooks : Registry (Hook σ)) (stage : HookStage) (response : Option Response)
    (c : DispatchContext) : Timed σ DispatchContext :=
  Timed.step (runAll hooks stage response c.hooks c)

/-- The hooks of a context that are not known. -/
def unknown (hooks : Registry (Hook σ)) (c : DispatchContext) : List String :=
  c.hooks.filter (!hooks.contains ·)

end Hook

end CasefileHub
