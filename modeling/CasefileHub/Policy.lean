import CasefileHub.Registry
import CasefileHub.Files
import CasefileHub.Yaml.Decode
/-!
# Policy patterns

A pattern bundles what a request gets without asking: context to fetch and hooks to run. The library
of patterns holds two built-in ones and further ones of other names. A name that is not in it stands
for the default pattern.

    ofPatterns ps = ok ↔ the names in ps are new and pairwise distinct
-/

namespace CasefileHub

/-- What a pattern contributes to each request. -/
structure PolicyDefaults where
  contextRequirements : List String := []
  hooks : List String := []
deriving DecidableEq, Repr

structure PolicyPattern where
  name : String
  description : String := ""
  defaults : PolicyDefaults := {}
deriving DecidableEq, Repr

instance : Named PolicyPattern := ⟨PolicyPattern.name, .policy⟩

namespace PolicyDefaults

def toJson (d : PolicyDefaults) : Json :=
  .obj [("context_requirements", .strings d.contextRequirements), ("hooks", .strings d.hooks)]

def decoder : Decoder PolicyDefaults :=
  .record "PolicyDefaults" <|
    mk <$> .withDefault "context_requirements" (.list .text) []
      <*> .withDefault "hooks" (.list .text) []

def reader : Yaml.Reader PolicyDefaults :=
  .record <|
    mk <$> .withDefault "context_requirements" (.list .text) []
      <*> .withDefault "hooks" (.list .text) []

end PolicyDefaults

namespace PolicyPattern

def toJson (p : PolicyPattern) : Json :=
  .obj [("defaults", p.defaults.toJson), ("description", .str p.description),
    ("name", .str p.name)]

def decoder : Decoder PolicyPattern :=
  .record "PolicyPattern" <|
    mk <$> .required "name" .text
      <*> .withDefault "description" .text ""
      <*> .withDefault "defaults" PolicyDefaults.decoder {}

def reader : Yaml.Reader PolicyPattern :=
  .record <|
    mk <$> .required "name" .text
      <*> .withDefault "description" .text ""
      <*> .withDefault "defaults" PolicyDefaults.reader {}

/-! ## Built-in patterns -/

/-- The name that unknown names stand for. -/
def defaultName : String := "default"

def sessionObserverName : String := "session_observer"

def standard : PolicyPattern where
  name := defaultName
  description := "No context unless requested; metrics and audit hooks"
  defaults := { hooks := ["metrics", "audit"] }

def sessionObserver : PolicyPattern where
  name := sessionObserverName
  description := "Fetches the request session; metrics and audit hooks"
  defaults := { contextRequirements := ["session"], hooks := ["metrics", "audit"] }

def builtin : List PolicyPattern := [standard, sessionObserver]

end PolicyPattern

/-! ## The library of patterns -/

structure PolicyLibrary where
  patterns : Registry PolicyPattern

namespace PolicyLibrary

def builtin : PolicyLibrary := ⟨PolicyPattern.builtin.foldl Registry.replace .empty⟩

/-- The built-in patterns and further ones. -/
def ofPatterns (ps : List PolicyPattern) : Except HubError PolicyLibrary := do
  return ⟨← builtin.patterns.registerAll ps⟩

/-- The built-in patterns and those under `patterns` in a YAML text. -/
def parse (text : String) : Except HubError PolicyLibrary := do
  ofPatterns (← Yaml.Reader.parse (.record (.required "patterns" (.list PolicyPattern.reader))) text)

/-- The built-in patterns and those in a file. -/
def read (files : Files) (path : String) : Except HubError PolicyLibrary := do
  parse (← files.read path)

def get? (l : PolicyLibrary) (name : String) : Option PolicyPattern := l.patterns.get? name

def contains (l : PolicyLibrary) (name : String) : Bool := l.patterns.contains name

def names (l : PolicyLibrary) : List String := l.patterns.names

/-- The pattern that a name stands for. -/
def resolve (l : PolicyLibrary) (name : String) : String :=
  if l.contains name then name else PolicyPattern.defaultName

/-- The defaults of the pattern that a name stands for. -/
def defaults (l : PolicyLibrary) (name : String) : PolicyDefaults :=
  ((l.get? (l.resolve name)).map PolicyPattern.defaults).getD {}

end PolicyLibrary

end CasefileHub
