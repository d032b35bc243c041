import CasefileHub.Invocation.Admission
import CasefileHub.Response
import CasefileHub.Timed
/-!
# Invocation of tools

An admitted call is previewed or, if the quota has room, executed: by the tool's own implementation,
else by the executor of methods. Each attempt has the stricter of two deadlines. Failed attempts are
repeated only where that is safe, and the result is that of the last one.
-/

namespace CasefileHub

/-- Does the work of a tool. -/
abbrev Implementation (σ : Type) := Parameters → Timed σ (Except HubError Json)

/-- Executes a method by its name. -/
abbrev Executor (σ : Type) := String → Parameters → Caller → Timed σ (Except HubError Json)

/-- What became of an admitted call. -/
inductive ToolOutcome where
  | success (result : Json)
  | dryRun
  | failure (e : HubError)
deriving DecidableEq, Repr

namespace ToolOutcome

def text : ToolOutcome → String
  | .success _ => "success"
  | .dryRun => "dry_run"
  | .failure _ => "error"

def result? : ToolOutcome → Option Json
  | .success v => some v
  | _ => none

def error? : ToolOutcome → Option HubError
  | .failure e => some e
  | _ => none

def ofResult : Except HubError Json → ToolOutcome
  | .ok v => .success v
  | .error e => .failure e

end ToolOutcome

structure ToolResult where
  tool : String
  outcome : ToolOutcome
  parameters : Parameters
  durationMillis : Nat := 0
  /-- The attempts made; none in a dry run. -/
  attempts : Nat := 0
  warnings : List String := []
deriving DecidableEq, Repr

namespace ToolResult

def isSuccess (r : ToolResult) : Bool := r.outcome.result?.isSome

def toJson (r : ToolResult) : Json :=
  .obj ([("attempts", .nat r.attempts), ("duration_ms", .nat r.durationMillis)] ++
    Json.memberOf "error_message" (.str ·.message) r.outcome.error? ++
    Json.memberOf "error_type" (.str ·.kind) r.outcome.error? ++
    [("parameters", r.parameters.toJson)] ++
    Json.memberOf "result" id r.outcome.result? ++
    [("status", .str r.outcome.text), ("tool", .str r.tool), ("warnings", .strings r.warnings)])

end ToolResult

/-! ## Attempts -/

/-- The stricter of two deadlines. -/
def stricter : Option Nat → Option Nat → Option Nat
  | some a, some b => some (min a b)
  | a, b => a.or b

/-- Attempts a computation, and again after each failed execution, at most so many times more. The
result is that of the last attempt, with the number of attempts. -/
def attempting {σ : Type} (once : Timed σ (Except HubError Json)) :
    Nat → Timed σ (Nat × Except HubError Json)
  | 0 => do return (1, ← once)
  | further + 1 => do
    match ← once with
    | .error (.execution _ _) =>
      let (n, r) ← attempting once further
      return (n + 1, r)
    | r => return (1, r)

/-! ## The invoker -/

/-- What a build does where a number of 32 bits overflows: it goes on with what is left in the 32
bits, or aborts the call. -/
inductive Overflow where
  | wraps | aborts
deriving DecidableEq, Repr

/-- One more than a number, unless that overflows and the build aborts. -/
def Overflow.succ? (o : Overflow) (n : UInt32) : Option UInt32 :=
  if o = .aborts ∧ n.toNat + 1 = UInt32.size then none else some (n + 1)

/-- Tools of a catalog, the implementations of some by name, and perhaps an executor for others, in
a build of some kind. -/
structure Invoker (σ : Type) where
  catalog : Catalog
  implementations : Table (Implementation σ) := .empty
  executor : Option (Executor σ) := none
  overflow : Overflow := .wraps

namespace Invoker

variable {σ : Type}

/-- The failure of a tool that nothing implements. -/
def unresolved (text : String) : HubError := .execution "unresolved_implementation" text

/-- The work of an admitted call. -/
def work (i : Invoker σ) (a : Admission) (caller : Caller) : Timed σ (Except HubError Json) :=
  match i.implementations.get? a.tool.name with
  | some implementation => implementation a.parameters
  | none =>
    match a.tool.methodName, i.executor with
    | some method, some executor => executor method a.parameters caller
    | some method, none =>
      return .error (unresolved ("no executor available for method '" ++ method ++ "'"))
    | none, _ =>
      return .error (unresolved
        ("tool '" ++ a.tool.name ++ "' has neither an implementation nor a method"))

/-- The failure of an attempt whose deadline passes. -/
def timeout (tool : String) (seconds : Nat) : HubError :=
  .execution "timeout" ("tool '" ++ tool ++ "' exceeded " ++ Nat.repr seconds ++ " s")

/-- One attempt of an admitted call. -/
def attempt (i : Invoker σ) (a : Admission) (options : InvokeOptions) :
    Timed σ (Except HubError Json) := do
  let seconds := stricter options.timeoutSeconds a.tool.rules.timeoutSeconds
  match ← Timed.withinOption seconds (i.work a options.caller) with
  | some r => return r
  | none => return .error (timeout a.tool.name (seconds.getD 0))

/-- Whether failed attempts may be repeated: those of an idempotent method, and those of a tool
without a registered method that has its own implementation or no binding. -/
def isRetryable (i : Invoker σ) (a : Admission) : Bool :=
  match a.method with
  | some m => m.rules.idempotent
  | none => i.implementations.contains a.tool.name || !a.tool.isBound

/-- How many attempts are allowed. The first is made in any case, also where the number has wrapped
around to none; there is no number if the build aborts. -/
def maxAttempts? (i : Invoker σ) (a : Admission) : Option UInt32 :=
  if i.isRetryable a then i.overflow.succ? a.tool.rules.maxRetries else some 1

/-- The result of an admitted call that is not executed. -/
def preview (a : Admission) : ToolResult where
  tool := a.tool.name
  outcome := .dryRun
  parameters := a.parameters
  warnings := a.warnings

/-- Makes the attempts that are allowed, and reports the last. -/
def executeUpTo (i : Invoker σ) (a : Admission) (options : InvokeOptions) (limit : UInt32) :
    Timed σ ToolResult := do
  let start ← Timed.clock
  let (attempts, r) ← attempting (i.attempt a options) (limit.toNat - 1)
  let stop ← Timed.clock
  return {
    tool := a.tool.name
    outcome := .ofResult r
    parameters := a.parameters
    durationMillis := (stop - start) / 1000000
    attempts := attempts
    warnings := a.warnings }

/-- Executes an admitted call, if the number of attempts allowed does not abort it. -/
def execute (i : Invoker σ) (a : Admission) (options : InvokeOptions) : Timed σ ToolResult :=
  match i.maxAttempts? a with
  | some limit => i.executeUpTo a options limit
  | none => Timed.stop

/-- Invokes a tool. The quota counts executions, however many attempts they take. -/
def invoke (i : Invoker σ) (q : Quota) (name : String) (raw : Json) (options : InvokeOptions) :
    Timed σ (Except ToolError ToolResult × Quota) :=
  match Admission.ofCall i.catalog name raw options.caller with
  | .error e => return (.error e, q)
  | .ok a =>
    if options.dryRun then return (.ok (preview a), q)
    else do
      match q.take (← Timed.now) name a.tool.rules.perMinute a.tool.rules.perHour with
      | (.error s, q') => return (.error (.rateLimited name s.wait), q')
      | (.ok (), q') => return (.ok (← i.execute a options), q')

end Invoker

end CasefileHub
