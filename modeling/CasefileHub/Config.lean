import CasefileHub.Policy
/-!
# Settings of the hub

Settings come from their defaults, then from a YAML file, then from variables, which win. A text of
white space alone leaves the defaults.
-/

namespace CasefileHub

structure HubConfig where
  defaultPolicy : String := PolicyPattern.defaultName
  strictDrift : Bool := false
  strictConsistency : Bool := false
  /-- The deadline of each operation, in seconds. -/
  operationTimeout : Option Nat := none
  /-- List the hooks of a request that are not known. -/
  warnOnUnknownHooks : Bool := true
  capabilitiesFile : Option String := none
deriving DecidableEq, Repr

/-- The value of each variable that is set. -/
abbrev Variables := String → Option String

namespace HubConfig

def toJson (c : HubConfig) : Json :=
  .obj [("capabilities_file", .ofOption .str c.capabilitiesFile),
    ("default_policy", .str c.defaultPolicy),
    ("operation_timeout_secs", .ofOption .nat c.operationTimeout),
    ("strict_consistency", .bool c.strictConsistency),
    ("strict_drift", .bool c.strictDrift),
    ("warn_on_unknown_hooks", .bool c.warnOnUnknownHooks)]

def path : Decoder String
  | .str s => .ok s
  | v => Decoder.mismatch v "path string"

def decoder : Decoder HubConfig :=
  .record "HubConfig" <|
    mk <$> .withDefault "default_policy" .text PolicyPattern.defaultName
      <*> .withDefault "strict_drift" .bool false
      <*> .withDefault "strict_consistency" .bool false
      <*> .optional "operation_timeout_secs" .word64
      <*> .withDefault "warn_on_unknown_hooks" .bool true
      <*> .optional "capabilities_file" path

def reader : Yaml.Reader HubConfig :=
  .record <|
    mk <$> .withDefault "default_policy" .text PolicyPattern.defaultName
      <*> .withDefault "strict_drift" .bool false
      <*> .withDefault "strict_consistency" .bool false
      <*> .optional "operation_timeout_secs" .word64
      <*> .withDefault "warn_on_unknown_hooks" .bool true
      <*> .optional "capabilities_file" .text

/-- The settings of a YAML text. -/
def parse (text : String) : Except HubError HubConfig :=
  if Text.isAllBlank text then .ok {} else Yaml.Reader.parse reader text

def read (files : Files) (path : String) : Except HubError HubConfig := do
  parse (← files.read path)

/-! ## Variables -/

/-- The truth value of a variable. -/
def truth (key value : String) : Except HubError Bool :=
  let value := Text.lowerAscii (Text.trim value)
  if value ∈ ["1", "true", "yes", "on"] then .ok true
  else if value ∈ ["0", "false", "no", "off", ""] then .ok false
  else .error (.config (key ++ " must be a boolean, got '" ++ value ++ "'"))

/-- The number of seconds of a variable: decimal digits, which a plus sign may precede. -/
def seconds (key value : String) : Except HubError Nat :=
  let digits := match (Text.trim value).toList with
    | '+' :: rest => rest
    | cs => cs
  match (Yaml.Reader.digits? 10 digits).filter (· < Nat.pow 2 64) with
  | some n => .ok n
  | none => .error (.config (key ++ " must be an integer, got '" ++ value ++ "'"))

/-- A variable that is set to more than white space. -/
def nonblank (env : Variables) (key : String) : Option String :=
  (env key).filter (!Text.isAllBlank ·)

/-- A setting after its variable: unchanged if that is not set. -/
def overridden {α : Type} (env : Variables) (key : String)
    (read : String → String → Except HubError α) (current : α) : Except HubError α :=
  match env key with
  | some value => read key value
  | none => .ok current

/-- The settings after the variables. -/
def withOverrides (c : HubConfig) (env : Variables) : Except HubError HubConfig := do
  let strictDrift ← overridden env "HUB_STRICT_DRIFT" truth c.strictDrift
  let strictConsistency ← overridden env "HUB_STRICT_CONSISTENCY" truth c.strictConsistency
  let operationTimeout ← overridden env "HUB_OPERATION_TIMEOUT_SECS"
    (fun key value => some <$> seconds key value) c.operationTimeout
  return { c with
    defaultPolicy := ((nonblank env "HUB_DEFAULT_POLICY").map Text.trim).getD c.defaultPolicy
    strictDrift := strictDrift
    strictConsistency := strictConsistency
    operationTimeout := operationTimeout
    capabilitiesFile := (nonblank env "HUB_CAPABILITIES_FILE").or c.capabilitiesFile }

/-- The variable that names a file with settings. -/
def fileVariable : String := "HUB_CONFIG"

/-- The settings of the file that a variable names, if it does, and of the other variables. -/
def load (files : Files) (env : Variables) : Except HubError HubConfig := do
  let base ← match nonblank env fileVariable with
    | some path =>
      match read files (Text.trim path) with
      | .ok c => .ok c
      | .error e => .error (.config (fileVariable ++ " '" ++ path ++ "': " ++ e.message))
    | none => .ok {}
  base.withOverrides env

/-- The deadline in milliseconds. -/
def timeoutMillis (c : HubConfig) : Option Nat := c.operationTimeout.map (· * 1000)

end HubConfig

end CasefileHub
