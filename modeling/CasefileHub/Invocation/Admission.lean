import CasefileHub.Catalog
import CasefileHub.Invocation.Caller
import CasefileHub.Quota
import CasefileHub.Request
/-!
# Admission of tool calls

The gates in front of a tool, in order: the tool exists and is enabled, the caller is authenticated,
has a role and has every permission of the tool and of its method, the arguments are valid, and there
is a casefile if one is needed. The first gate that fails gives the error. The gates only look.
-/

namespace CasefileHub

/-- Why a tool is not used. -/
inductive ToolError where
  | unknown (tool : String)
  | disabled (tool reason : String)
  | unauthenticated (tool : String)
  | noRole (tool : String) (allowed : List String)
  | missingPermissions (tool : String) (missing : List String)
  | invalid (violations : List Violation)
  | casefileRequired (tool : String)
  | rateLimited (tool : String) (retryAfterMillis : Nat)
deriving DecidableEq, Repr

namespace ToolError

def denial (tool reason : String) : String :=
  "Permission denied for tool '" ++ tool ++ "': " ++ reason

def message : ToolError → String
  | .unknown tool => "Tool not found: " ++ tool
  | .disabled tool reason => "Tool '" ++ tool ++ "' is disabled: " ++ reason
  | .unauthenticated tool => "Tool '" ++ tool ++ "' requires an authenticated caller"
  | .noRole tool allowed =>
    denial tool ("requires one of roles [" ++ Text.join ", " allowed ++ "]")
  | .missingPermissions tool missing =>
    denial tool ("missing permissions [" ++ Text.join ", " missing ++ "]")
  | .invalid violations => Violation.summary violations
  | .casefileRequired tool => "Tool '" ++ tool ++ "' requires a casefile"
  | .rateLimited tool millis =>
    "Rate limit exceeded for tool '" ++ tool ++ "', retry after " ++ Nat.repr millis ++ " ms"

end ToolError

/-- How a tool is called. -/
structure InvokeOptions where
  dryRun : Bool := false
  /-- The caller's deadline of each attempt, which can only tighten that of the tool. -/
  timeoutSeconds : Option Nat := none
  caller : Caller := {}
deriving DecidableEq, Repr

/-- A call that has passed the gates. -/
structure Admission where
  tool : Tool
  /-- The method that the tool names, if it is registered. -/
  method : Option Method
  parameters : Parameters
deriving Repr

namespace Admission

/-- What the caller is told about deprecations, of the tool and of its method. -/
def warnings (a : Admission) : List String :=
  (if a.tool.rules.deprecated then
    [a.tool.rules.deprecationMessage.getD ("Tool '" ++ a.tool.name ++ "' is deprecated")]
  else []) ++
  match a.method.bind (·.rules.deprecation) with
  | some d =>
    ["Method '" ++ a.tool.methodName.getD "" ++ "' is deprecated since " ++ d.since]
  | none => []

/-! ## The gates -/

def requireEnabled (t : Tool) : Except ToolError Unit :=
  if t.rules.enabled then .ok ()
  else .error (.disabled t.name (t.rules.deprecationMessage.getD "disabled by business rules"))

def requireAuthenticated (t : Tool) (caller : Caller) : Except ToolError Unit :=
  if t.rules.requiresAuth && !caller.authenticated then .error (.unauthenticated t.name)
  else .ok ()

/-- The caller has one of the roles of a tool that names any. -/
def hasRole (t : Tool) (caller : Caller) : Bool :=
  t.rules.allowedRoles.isEmpty || caller.roles.any t.rules.allowedRoles.contains

def requireRole (t : Tool) (caller : Caller) : Except ToolError Unit :=
  if hasRole t caller then .ok () else .error (.noRole t.name t.rules.allowedRoles)

/-- The permissions of a tool and then those of its method. -/
def requiredPermissions (t : Tool) (m : Option Method) : List String :=
  t.rules.requiredPermissions ++ (m.map (·.rules.requiredPermissions)).getD []

def requirePermissions (t : Tool) (m : Option Method) (caller : Caller) : Except ToolError Unit :=
  match Method.missing (requiredPermissions t m) caller.permissions with
  | [] => .ok ()
  | missing => .error (.missingPermissions t.name missing)

def requireValid (t : Tool) (raw : Json) : Except ToolError Parameters :=
  (t.validate raw).mapError .invalid

def requireCasefile (t : Tool) (params : Parameters) (caller : Caller) : Except ToolError Unit :=
  if t.rules.requiresCasefile && (params.text? Request.casefileKey).isNone &&
      caller.casefileId.isNone then
    .error (.casefileRequired t.name)
  else .ok ()

/-- Passes a call through all gates. -/
def ofCall (c : Catalog) (name : String) (raw : Json) (caller : Caller) :
    Except ToolError Admission :=
  match c.tool? name with
  | none => .error (.unknown name)
  | some tool => do
    let method := tool.methodName.bind c.method?
    requireEnabled tool
    requireAuthenticated tool caller
    requireRole tool caller
    requirePermissions tool method caller
    let parameters ← requireValid tool raw
    requireCasefile tool parameters caller
    return ⟨tool, method, parameters⟩

end Admission

end CasefileHub
