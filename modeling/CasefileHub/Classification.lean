import CasefileHub.Json.Decode
/-!
# Classification of methods

A method is classified along six axes, each with a closed list of terms. Declared terms are read
without regard to surrounding blanks, case, or a hyphen in place of an underscore; a term that is
not on its axis is reported with the text as it was declared.

    ofTexts c.text = .ok c          (ofTexts_text)
-/

namespace CasefileHub

inductive Axis where
  | domain | subdomain | capability | complexity | maturity | integrationTier
deriving DecidableEq, Repr

namespace Axis

def all : List Axis := [.domain, .subdomain, .capability, .complexity, .maturity, .integrationTier]

def name : Axis → String
  | .domain => "domain"
  | .subdomain => "subdomain"
  | .capability => "capability"
  | .complexity => "complexity"
  | .maturity => "maturity"
  | .integrationTier => "integration_tier"

end Axis

/-- The business area. -/
inductive Domain where
  | workspace | communication | automation | utilities
deriving DecidableEq, Repr

/-- The kind of resource inside a domain. -/
inductive Subdomain where
  | casefile | toolSession | chat | workflow | context
deriving DecidableEq, Repr

/-- What is done to the resource. -/
inductive Verb where
  | create | read | update | delete | list | search | link | process | execute
deriving DecidableEq, Repr

/-- How many service calls are behind a method. -/
inductive Complexity where
  | atomic | composite | pipeline
deriving DecidableEq, Repr

inductive Maturity where
  | experimental | beta | stable | deprecated
deriving DecidableEq, Repr

/-- How far a method reaches outside. -/
inductive IntegrationTier where
  | internal | hybrid | external
deriving DecidableEq, Repr

/-- The spelling that terms are compared in: trimmed, lower case, underscores. -/
def Vocabulary.spelling (s : String) : String :=
  String.ofList ((Text.trimList s.toList).map fun c => if c = '-' then '_' else c.toLower)

/-- The terms of an axis, in their order, each with its text. -/
class Vocabulary (α : Type) where
  axis : Axis
  terms : List α
  text : α → String
  /-- The text of a term is the spelling of this term and of none before it. -/
  lawful : ∀ t, terms.find? (fun t' => text t' == Vocabulary.spelling (text t)) = some t := by
    intro t
    cases t <;> decide

instance : Vocabulary Domain where
  axis := .domain
  terms := [.workspace, .communication, .automation, .utilities]
  text
    | .workspace => "workspace"
    | .communication => "communication"
    | .automation => "automation"
    | .utilities => "utilities"

instance : Vocabulary Subdomain where
  axis := .subdomain
  terms := [.casefile, .toolSession, .chat, .workflow, .context]
  text
    | .casefile => "casefile"
    | .toolSession => "tool_session"
    | .chat => "chat"
    | .workflow => "workflow"
    | .context => "context"

instance : Vocabulary Verb where
  axis := .capability
  terms := [.create, .read, .update, .delete, .list, .search, .link, .process, .execute]
  text
    | .create => "create"
    | .read => "read"
    | .update => "update"
    | .delete => "delete"
    | .list => "list"
    | .search => "search"
    | .link => "link"
    | .process => "process"
    | .execute => "execute"

instance : Vocabulary Complexity where
  axis := .complexity
  terms := [.atomic, .composite, .pipeline]
  text
    | .atomic => "atomic"
    | .composite => "composite"
    | .pipeline => "pipeline"

instance : Vocabulary Maturity where
  axis := .maturity
  terms := [.experimental, .beta, .stable, .deprecated]
  text
    | .experimental => "experimental"
    | .beta => "beta"
    | .stable => "stable"
    | .deprecated => "deprecated"

instance : Vocabulary IntegrationTier where
  axis := .integrationTier
  terms := [.internal, .hybrid, .external]
  text
    | .internal => "internal"
    | .hybrid => "hybrid"
    | .external => "external"

namespace Vocabulary

variable {α : Type} [Vocabulary α]

/-- The term that a declared text spells. -/
def parse? (s : String) : Option α := terms.find? fun t => text t == spelling s

theorem parse?_text (t : α) : parse? (text t) = some t := lawful t

/-- Terms have texts of their own. -/
theorem text_inj (t t' : α) : text t = text t' ↔ t = t' := by
  refine ⟨fun h => ?_, congrArg text⟩
  have hsome : some t = some t' := by rw [← parse?_text t, h, parse?_text t']
  exact Option.some.inj hsome

/-- Reads a term by its exact text. -/
def decoder (α : Type) [Vocabulary α] : Decoder α :=
  Decoder.choice ((terms : List α).map fun t => (text t, t))

def toJson (t : α) : Json := .str (text t)

end Vocabulary

/-- A declared text that is no term of its axis. -/
structure UnknownTerm where
  axis : Axis
  value : String
deriving DecidableEq, Repr

def UnknownTerm.message (u : UnknownTerm) : String :=
  "unknown " ++ u.axis.name ++ " '" ++ u.value ++ "'"

def UnknownTerm.toJson (u : UnknownTerm) : Json :=
  .obj [("field", .str u.axis.name), ("value", .str u.value)]

/-- Where a method stands on each axis. -/
structure Classification where
  domain : Domain
  subdomain : Subdomain
  capability : Verb
  complexity : Complexity
  maturity : Maturity
  integrationTier : IntegrationTier
deriving DecidableEq, Repr

namespace Classification

/-- The text of a classification on an axis. -/
def text (c : Classification) : Axis → String
  | .domain => Vocabulary.text c.domain
  | .subdomain => Vocabulary.text c.subdomain
  | .capability => Vocabulary.text c.capability
  | .complexity => Vocabulary.text c.complexity
  | .maturity => Vocabulary.text c.maturity
  | .integrationTier => Vocabulary.text c.integrationTier

/-- One service call, stable, inside the process: the usual case. -/
def atomic (domain : Domain) (subdomain : Subdomain) (capability : Verb) : Classification :=
  ⟨domain, subdomain, capability, .atomic, .stable, .internal⟩

/-- Whether a text spells a term of an axis. -/
def isTerm (s : String) : Axis → Bool
  | .domain => (Vocabulary.parse? s : Option Domain).isSome
  | .subdomain => (Vocabulary.parse? s : Option Subdomain).isSome
  | .capability => (Vocabulary.parse? s : Option Verb).isSome
  | .complexity => (Vocabulary.parse? s : Option Complexity).isSome
  | .maturity => (Vocabulary.parse? s : Option Maturity).isSome
  | .integrationTier => (Vocabulary.parse? s : Option IntegrationTier).isSome

/-- The declared texts that are no terms, in the order of the axes. -/
def unknownTerms (texts : Axis → String) : List UnknownTerm :=
  (Axis.all.filter fun a => !isTerm (texts a) a).map fun a => ⟨a, texts a⟩

/-- The classification that six declared texts spell, or all the texts that are no terms. -/
def ofTexts (texts : Axis → String) : Except (List UnknownTerm) Classification :=
  match (Vocabulary.parse? (texts .domain) : Option Domain),
    (Vocabulary.parse? (texts .subdomain) : Option Subdomain),
    (Vocabulary.parse? (texts .capability) : Option Verb),
    (Vocabulary.parse? (texts .complexity) : Option Complexity),
    (Vocabulary.parse? (texts .maturity) : Option Maturity),
    (Vocabulary.parse? (texts .integrationTier) : Option IntegrationTier) with
  | some d, some s, some v, some c, some m, some t => .ok ⟨d, s, v, c, m, t⟩
  | _, _, _, _, _, _ => .error (unknownTerms texts)

def toJson (c : Classification) : Json :=
  .obj [("capability", Vocabulary.toJson c.capability),
    ("complexity", Vocabulary.toJson c.complexity),
    ("domain", Vocabulary.toJson c.domain),
    ("integration_tier", Vocabulary.toJson c.integrationTier),
    ("maturity", Vocabulary.toJson c.maturity),
    ("subdomain", Vocabulary.toJson c.subdomain)]

def decoder : Decoder Classification :=
  .record "Classification" <|
    mk <$> .required "domain" (Vocabulary.decoder Domain)
      <*> .required "subdomain" (Vocabulary.decoder Subdomain)
      <*> .required "capability" (Vocabulary.decoder Verb)
      <*> .required "complexity" (Vocabulary.decoder Complexity)
      <*> .required "maturity" (Vocabulary.decoder Maturity)
      <*> .required "integration_tier" (Vocabulary.decoder IntegrationTier)

/-- The texts of a classification spell it. -/
theorem ofTexts_text (c : Classification) : ofTexts c.text = .ok c := by
  simp [ofTexts, text, Vocabulary.parse?_text]

end Classification

end CasefileHub
