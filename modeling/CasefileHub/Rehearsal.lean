import CasefileHub.Rehearsal.Script
import CasefileHub.Hub
/-!
# Rehearsals

A rehearsal runs a hub over a store whose services are watched: every call is logged with what it
is about, and may be made to wait and to fail. Hooks can be watched as well, and the calls of
scripted tools and executors are counted.
-/

namespace CasefileHub

structure Rehearsal where
  store : Store := {}
  /-- The calls of services, in order. -/
  calls : List Json := []
  /-- What observers have seen, in order. -/
  observations : List Json := []
  implementationCalls : Nat := 0
  executorCalls : Nat := 0
deriving Repr, Inhabited

/-- What a service is made to do before it answers. -/
structure Fault where
  /-- The seconds to wait. -/
  delay : Nat := 0
  failure : Option ServiceError := none
deriving DecidableEq, Repr

namespace Rehearsal

variable {α P : Type}

/-! ## Services -/

def log (name : String) (arg : Json) : Timed Rehearsal Unit :=
  Timed.modify fun s => { s with calls := s.calls ++ [.obj [("arg", arg), ("call", .str name)]] }

/-- A call that is logged and then waits and fails as a fault says. -/
def watched (faults : Table Fault) (name : String) (arg : Json) (call : ServiceCall Store α) :
    ServiceCall Rehearsal α := do
  let fault := (faults.get? name).getD {}
  ExceptT.lift (log name arg)
  ExceptT.lift (Timed.sleep (Timed.nanos fault.delay))
  match fault.failure with
  | some e => throw e
  | none => call.focus store fun inner s => { s with store := inner }

/-- The services of the store, watched. -/
def services (faults : Table Fault) : Services Rehearsal where
  session? id := watched faults "sessions.get" (.str id) (Store.services.session? id)
  casefile? id := watched faults "casefiles.get" (.str id) (Store.services.casefile? id)
  createCasefile r := watched faults "casefile.create" r.toJson (Store.services.createCasefile r)
  getCasefile r := watched faults "casefile.get" r.toJson (Store.services.getCasefile r)
  addSession r := watched faults "casefile.add_session" r.toJson (Store.services.addSession r)
  createSession r := watched faults "session.create" r.toJson (Store.services.createSession r)
  processChat r := watched faults "chat.process" r.toJson (Store.services.processChat r)

/-- The services of the store, as they are. -/
def plainServices : Services Rehearsal :=
  Store.services.focus store fun inner s => { s with store := inner }

/-! ## Observers -/

def responseView (r : Response) : Json :=
  .obj [("error", .ofOption ErrorInfo.toJson r.error), ("metadata", .ofTable r.metadata),
    ("status", r.status.toJson)]

def sessionView (s : ToolSession) : Json :=
  .obj [("id", .str s.id), ("messages", .nat s.messages.length)]

/-- What an observer sees of a dispatch. -/
def observation (name : String) (stage : HookStage) (response : Option Response)
    (c : DispatchContext) : Json :=
  .obj [("audit", .nat c.auditLog.length),
    ("casefile", .ofOption (.str ·.id) c.casefile),
    ("events", .nat c.hookEvents.length),
    ("hook", .str name),
    ("hooks", .strings c.hooks),
    ("operation", .str c.operation),
    ("policy", .str c.policy),
    ("requirements", .strings c.contextRequirements),
    ("response", .ofOption responseView response),
    ("session", .ofOption sessionView c.session),
    ("skipped", .strings c.skippedHooks),
    ("stage", .str stage.text)]

/-- A hook that notes what it sees. -/
def observer (name : String) : Hook Rehearsal where
  name := name
  run stage response c e :=
    let seen := observation name stage response c
    (c, { e with state := { e.state with observations := e.state.observations ++ [seen] } })

/-! ## Scripted parts -/

/-- A route to an operation that waits, and then fails or gives the payload back. -/
def echo (operation method : String) (defaultPolicy : Option String) (fault : Fault) :
    Route Rehearsal where
  operation := operation
  method := method
  defaultPolicy := defaultPolicy
  handler := Route.typedHandler fun _ (r : Request Json) => do
    ExceptT.lift (Timed.sleep (Timed.nanos fault.delay))
    match fault.failure with
    | some e => throw e
    | none => return r.payload

/-- Counts a call of an implementation, with the calls before it. -/
def countImplementation : Timed Rehearsal Nat := Timed.step fun e =>
  (e.state.implementationCalls,
    { e with state := { e.state with implementationCalls := e.state.implementationCalls + 1 } })

/-- Counts a call of the executor, with the calls before it. -/
def countExecutor : Timed Rehearsal Nat := Timed.step fun e =>
  (e.state.executorCalls,
    { e with state := { e.state with executorCalls := e.state.executorCalls + 1 } })

/-- An implementation that echoes its parameters, as a script says. -/
def implementation (s : Script) : Implementation Rehearsal := fun params => do
  s.play (← countImplementation) (.obj [("echo", params.toJson)])

/-- An executor that echoes what it is asked for, as a script says. -/
def executor (s : Script) : Executor Rehearsal := fun method params caller => do
  s.play (← countExecutor)
    (.obj [("method", .str method), ("params", params.toJson),
      ("user", .ofOption .str caller.userId)])

end Rehearsal

end CasefileHub
