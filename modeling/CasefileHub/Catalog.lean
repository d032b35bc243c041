import CasefileHub.Tool
import CasefileHub.Record
/-!
# The catalog

Methods, tools and models, each in a registry. A catalog is a value: every change gives a new one,
and a change that is refused gives none. Methods and tools refer to each other by name only.
-/

namespace CasefileHub

structure Catalog where
  methods : Registry Method := .empty
  tools : Registry Tool := .empty
  models : Registry Model := .empty

namespace Catalog

instance : Inhabited Catalog := ⟨{}⟩

def method? (c : Catalog) (name : String) : Option Method := c.methods.get? name

def tool? (c : Catalog) (name : String) : Option Tool := c.tools.get? name

/-! ## Changes -/

def registerModel (c : Catalog) (m : Model) : Except HubError Catalog := do
  return { c with models := ← c.models.register m }

def registerMethod (c : Catalog) (m : Method) : Except HubError Catalog := do
  return { c with methods := ← c.methods.register m }

def registerTool (c : Catalog) (t : Tool) : Except HubError Catalog := do
  return { c with tools := ← c.tools.register t }

/-- Puts a tool in place of an earlier one of its name. -/
def replaceTool (c : Catalog) (t : Tool) : Catalog := { c with tools := c.tools.replace t }

def unregisterMethod (c : Catalog) (name : String) : Catalog :=
  { c with methods := c.methods.erase name }

def unregisterTool (c : Catalog) (name : String) : Catalog :=
  { c with tools := c.tools.erase name }

/-- Registers the method that a record resolves to. -/
def registerRecord (c : Catalog) (r : CapabilityRecord) : Except HubError Catalog :=
  match r.resolve c.models with
  | .ok m => c.registerMethod m
  | .error issues =>
    .error (.config ("capability record '" ++ r.name ++ "': " ++
      Text.join "; " (issues.map RecordIssue.message)))

/-- Registers records in order; a refused one changes nothing. One outcome for each, with its name. -/
def registerRecords (c : Catalog) :
    List CapabilityRecord → Catalog × List (String × Except HubError Unit)
  | [] => (c, [])
  | r :: rest =>
    match c.registerRecord r with
    | .ok c' =>
      let (last, outcomes) := c'.registerRecords rest
      (last, (r.name, .ok ()) :: outcomes)
    | .error e =>
      let (last, outcomes) := c.registerRecords rest
      (last, (r.name, .error e) :: outcomes)

/-! ## Listings -/

def methodsBy (c : Catalog) (f : Method.Filter) : List Method :=
  c.methods.toList.filter (f.accepts ·)

/-- Methods by a field and a declared value; none where that is no filter. -/
def methodsByText (c : Catalog) (field value : String) : List Method :=
  match Method.Filter.parse? field value with
  | some f => c.methodsBy f
  | none => []

def toolsBy (c : Catalog) (f : Tool.Filter) : List Tool := c.tools.toList.filter (f.accepts ·)

/-- The tools bound to a method. -/
def toolsFor (c : Catalog) (method : String) : List Tool := c.toolsBy (.method method)

end Catalog

end CasefileHub
