import CasefileHub.Parameter
import CasefileHub.Pattern.Parser
import CasefileHub.Table
/-!
# Validation of arguments

Arguments are an object, the text of one, or null for none. Each specification is checked against
its own value alone, in the order of the specifications; names without a specification follow in
ascending order. Without violations the parameters are the given values and, for absent ones, the
defaults.
-/

namespace CasefileHub

/-- Values by parameter name, after validation. -/
abbrev Parameters := Table Json

namespace Parameters

def text? (p : Parameters) (name : String) : Option String := (p.get? name).bind Json.text?

def toJson (p : Parameters) : Json := .obj p.entries

end Parameters

/-- An engine for patterns: which texts are patterns, and in what texts each of them occurs. -/
class PatternEngine where
  compile? (pattern : String) : Option (String → Bool)

/-- The engine for the patterns of this library. -/
instance Pattern.engine : PatternEngine where
  compile? pattern := (parse? pattern).map occursIn

namespace ParameterSpec

def rangeReasons (s : ParameterSpec) (x : Binary64) : List Reason :=
  (match s.minValue with
    | some min => if min.isAbove x then [.belowMinimum min] else []
    | none => []) ++
  (match s.maxValue with
    | some max => if max.isBelow x then [.aboveMaximum max] else []
    | none => [])

def lengthReasons (s : ParameterSpec) (length : Nat) : List Reason :=
  (match s.minLength with
    | some min => if length < min then [.tooShort min] else []
    | none => []) ++
  (match s.maxLength with
    | some max => if max < length then [.tooLong max] else []
    | none => [])

def allowedReasons (s : ParameterSpec) (v : Json) : List Reason :=
  match s.allowed with
  | some allowed => if allowed.any (·.same v) then [] else [.notAllowed allowed]
  | none => []

variable [PatternEngine]

def patternReasons (s : ParameterSpec) (text : String) : List Reason :=
  match s.pattern with
  | some pattern =>
    match PatternEngine.compile? pattern with
    | some occursIn => if occursIn text then [] else [.unmatched pattern]
    | none => [.badPattern pattern]
  | none => []

/-- What is wrong with a value that is not null and has the type. -/
def constraintReasons (s : ParameterSpec) (v : Json) : List Reason :=
  (match v with
    | .num n => s.rangeReasons n.toReal
    | _ => []) ++
  (match v with
    | .str text => s.lengthReasons text.length
    | .arr items => s.lengthReasons items.length
    | _ => []) ++
  s.allowedReasons v ++
  (match v with
    | .str text => s.patternReasons text
    | _ => [])

/-- What is wrong with a present value. Null needs no type, but a required value. -/
def reasons (s : ParameterSpec) (v : Json) : List Reason :=
  if v.isNull then if s.required then [.null] else []
  else if s.type.admits v then s.constraintReasons v
  else [.type s.type.text]

def check (s : ParameterSpec) (v : Json) : List Violation :=
  (s.reasons v).map fun r => ⟨s.name, r⟩

/-- The violations of one specification by the arguments. -/
def violations (s : ParameterSpec) (args : List (String × Json)) : List Violation :=
  match Entries.lookup s.name args with
  | some v => s.check v
  | none => if s.required then [⟨s.name, .required⟩] else []

/-- The value that a specification takes from the arguments, or its default. -/
def contribution (s : ParameterSpec) (args : List (String × Json)) : Option Json :=
  match Entries.lookup s.name args with
  | some v => some v
  | none => if s.required then none else s.default

/-- One violation for each name without a specification. -/
def unknownNames (specs : List ParameterSpec) (args : List (String × Json)) : List Violation :=
  ((args.map Prod.fst).filter fun name => !specs.any (·.name == name)).map fun name =>
    ⟨name, .unknown⟩

/-- The arguments as members, in ascending order. -/
def arguments : Json → Except (List Violation) (List (String × Json))
  | .obj members => .ok members
  | .null => .ok []
  | .str text =>
    match Json.read text with
    | .ok (.obj members) => .ok members
    | .ok _ => .error [⟨"$", .unreadable (.expected "an object")⟩]
    | .error e => .error [⟨"$", .unreadable e⟩]
  | _ => .error [⟨"$", .noObject⟩]

def allViolations (specs : List ParameterSpec) (args : List (String × Json)) : List Violation :=
  specs.flatMap (·.violations args) ++ unknownNames specs args

def parameters (specs : List ParameterSpec) (args : List (String × Json)) : Parameters :=
  specs.foldl (fun p s => match s.contribution args with
    | some v => p.insert s.name v
    | none => p) .empty

/-- The parameters of raw arguments, or all violations. -/
def validate (specs : List ParameterSpec) (raw : Json) : Except (List Violation) Parameters := do
  let args ← arguments raw
  match allViolations specs args with
  | [] => return parameters specs args
  | vs => throw vs

end ParameterSpec

end CasefileHub
