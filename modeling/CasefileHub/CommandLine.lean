import CasefileHub.Catalog.Drift
import CasefileHub.Hub
import CasefileHub.Json.Members
import CasefileHub.Record.Declaration
/-!
# The line protocol

The hub is started from variables and files, after the catalog has been checked for consistency and
against the declared records. Then each line that is not blank is a request and gets an answer: the
response, or the error that refuses it.
-/

namespace CasefileHub

/-- Why the hub does not start: the error, and what was being done. -/
structure StartFailure where
  activity : Option String
  error : HubError
deriving DecidableEq, Repr

namespace StartFailure

/-- An error that says enough. -/
def bare (e : HubError) : StartFailure := ⟨none, e⟩

/-- An error and what it stems from. -/
def chain (e : HubError) : List String :=
  e.message :: match e with
    | .yaml text => [text]
    | .io text => [text]
    | _ => []

/-- A text with an indentation after each line end. -/
def indented (spaces text : String) : String :=
  String.ofList (text.toList.flatMap fun c => if c = '\n' then c :: spaces.toList else [c])

/-- One cause of several, with its number. -/
def numbered (number : Nat) (cause : String) : String :=
  let digits := Nat.repr number
  String.ofList (List.replicate (5 - digits.length) ' ') ++ digits ++ ": " ++
    indented "       " cause ++ "\n"

def causeList : List String → String
  | [] => ""
  | [cause] => "\nCaused by:\n    " ++ indented "    " cause ++ "\n"
  | causes => "\nCaused by:\n" ++ Text.join "" (causes.mapIdx numbered)

/-- The failure with its causes, line by line. -/
def report (f : StartFailure) : String :=
  match f.activity, chain f.error with
  | some activity, causes => "Error: " ++ activity ++ "\n" ++ causeList causes
  | none, first :: causes => "Error: " ++ first ++ "\n" ++ causeList causes
  | none, [] => ""

end StartFailure

namespace CommandLine

def during {α : Type} (activity : String) (r : Except HubError α) : Except StartFailure α :=
  r.mapError fun e => ⟨some activity, e⟩

/-- The records that the catalog is compared with. -/
def declaredRecords (files : Files) (config : HubConfig) :
    Except StartFailure (List CapabilityRecord) :=
  match config.capabilitiesFile with
  | some path => during ("reading capabilities " ++ path) (CapabilityRecord.readAll files path)
  | none => .ok CapabilityRecord.builtin

/-- The settings, from files and variables. -/
def loadConfig (files : Files) (env : Variables) : Except StartFailure HubConfig :=
  during "loading hub config" (HubConfig.load files env)

/-- The hub of some settings, after its checks. -/
def startWith (files : Files) (config : HubConfig) : Except StartFailure (Hub Store) := do
  let hub := Hub.inMemory config
  (ConsistencyIssue.enforce config.strictConsistency hub.consistency).mapError StartFailure.bare
  let declared ← declaredRecords files config
  let drift := Discrepancy.between declared hub.catalog.methods
  (Discrepancy.enforce config.strictDrift drift).mapError StartFailure.bare
  return hub

def start (files : Files) (env : Variables) : Except StartFailure (Hub Store) := do
  startWith files (← loadConfig files env)

/-! ## Lines -/

/-- Why a line is no request. -/
inductive LineError where
  | unreadable (e : Json.ReadError)
  | undecodable (e : Json.DecodeError)
deriving DecidableEq, Repr

def LineError.message : LineError → String
  | .unreadable e => e.message
  | .undecodable e => e.message

/-- The request of a line. Members of the line that a request has no field for are skimmed. -/
def parseRequest (freshId line : String) : Except LineError (Request Json) :=
  match Json.readMembers Request.fieldNames.contains line with
  | .error e => .error (.unreadable e)
  | .ok v => (Request.decoder freshId v).mapError .undecodable

def refusal (requestId : Option String) (kind message : String) : Json :=
  .obj [("error", .obj [("kind", .str kind), ("message", .str message)]),
    ("request_id", .ofOption .str requestId)]

/-- The answer to a line. -/
def answer (h : Hub Store) (line : String) : Timed Store Json := do
  let n ← Timed.fresh
  match parseRequest (Identifier.request n) line with
  | .error e => return refusal none "parse_error" e.message
  | .ok r =>
    match ← h.dispatch r with
    | .ok response => return response.toJson
    | .error e => return refusal (some r.requestId) e.kind e.message

/-- The answers to some lines; blank lines get none. -/
def answers (h : Hub Store) : List String → Timed Store (List Json)
  | [] => return []
  | line :: rest =>
    if Text.isAllBlank line then answers h rest
    else do
      let a ← answer h line
      return a :: (← answers h rest)

end CommandLine

end CasefileHub
