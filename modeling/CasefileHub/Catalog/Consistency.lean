import CasefileHub.Catalog
/-!
# Consistency of a catalog

The issues of a catalog and the operations of a hub, tools first and then methods, each in ascending
order of names. Only a binding to an unknown method is an error; `enforce` fails on errors in strict
mode.
-/

namespace CasefileHub

inductive Severity where
  | warning | error
deriving DecidableEq, Repr

def Severity.text : Severity → String
  | .warning => "warning"
  | .error => "error"

inductive ConsistencyIssue where
  /-- A tool is bound to a method that is not registered. -/
  | danglingMethod (tool method : String)
  /-- No tool is bound to a method. -/
  | orphanMethod (method : String)
  /-- A tool without a binding has a name like a bound one. -/
  | unboundTool (tool : String)
  /-- No operation has a method's name. -/
  | unroutedMethod (method : String)
deriving DecidableEq, Repr

namespace ConsistencyIssue

def severity : ConsistencyIssue → Severity
  | .danglingMethod _ _ => .error
  | _ => .warning

def message : ConsistencyIssue → String
  | .danglingMethod tool method =>
    "tool '" ++ tool ++ "' is bound to unknown method '" ++ method ++ "'"
  | .orphanMethod method => "method '" ++ method ++ "' has no bound tool"
  | .unboundTool tool => "tool '" ++ tool ++ "' looks method-backed but has no method binding"
  | .unroutedMethod method => "method '" ++ method ++ "' has no hub operation"

def toJson : ConsistencyIssue → Json
  | .danglingMethod tool method =>
    .obj [("issue", .str "dangling_method_ref"), ("method", .str method), ("tool", .str tool)]
  | .orphanMethod method => .obj [("issue", .str "orphan_method"), ("method", .str method)]
  | .unboundTool tool =>
    .obj [("issue", .str "unbound_method_style_tool"), ("tool", .str tool)]
  | .unroutedMethod method => .obj [("issue", .str "unrouted_method"), ("method", .str method)]

end ConsistencyIssue

namespace Catalog

/-- The verbs that names of bound tools begin with. -/
def bindingVerbs : List String := ["create", "get", "read", "update", "delete", "list", "search",
  "add", "link", "process", "execute"]

def isStemChar (c : Char) : Bool := c.isDigit || ('a' ≤ c && c ≤ 'z') || c == '_'

/-- One or more lower-case letters, digits and underscores. -/
def isStem (cs : List Char) : Bool := !cs.isEmpty && cs.all isStemChar

/-- What follows a beginning. -/
def after? (start cs : List Char) : Option (List Char) :=
  if start.isPrefixOf cs then some (cs.drop start.length) else none

/-- What stands before an ending. -/
def before? (ending cs : List Char) : Option (List Char) :=
  (after? ending.reverse cs.reverse).map List.reverse

/-- A verb, an underscore and a stem, or a stem and the ending `_tool`. -/
def readsLikeBinding (name : String) : Bool :=
  bindingVerbs.any (fun v => (after? (v.toList ++ ['_']) name.toList).any isStem) ||
    (before? "_tool".toList name.toList).any isStem

def toolIssues (c : Catalog) (t : Tool) : List ConsistencyIssue :=
  match t.binding with
  | some m => if c.methods.contains m then [] else [.danglingMethod t.name m]
  | none => if readsLikeBinding t.name then [.unboundTool t.name] else []

def methodIssues (c : Catalog) (operations : List String) (m : Method) : List ConsistencyIssue :=
  (if (c.toolsFor m.name).isEmpty then [.orphanMethod m.name] else []) ++
  (if !operations.isEmpty && !operations.contains m.name then [.unroutedMethod m.name] else [])

/-- The issues of a catalog; without operations, routes are not looked at. -/
def consistency (c : Catalog) (operations : List String) : List ConsistencyIssue :=
  c.tools.toList.flatMap c.toolIssues ++
    c.methods.toList.flatMap (c.methodIssues operations)

end Catalog

namespace ConsistencyIssue

def errors (issues : List ConsistencyIssue) : List ConsistencyIssue :=
  issues.filter (·.severity == .error)

def warnings (issues : List ConsistencyIssue) : List ConsistencyIssue :=
  issues.filter (·.severity == .warning)

/-- In strict mode, fails with all errors. -/
def enforce (strict : Bool) (issues : List ConsistencyIssue) : Except HubError Unit :=
  if strict && !(errors issues).isEmpty then
    .error (.inconsistent (Text.join "; " ((errors issues).map message)))
  else .ok ()

end ConsistencyIssue

end CasefileHub
