import CasefileHub.CommandLine
import Std.Time.DateTime.Timestamp
/-!
# The program

Reads the variables and the files that they name, starts the hub and answers the lines of the
standard input one by one.
-/

namespace CasefileHub.Main

/-- The variables that matter. -/
def variableNames : List String := [HubConfig.fileVariable, "HUB_DEFAULT_POLICY",
  "HUB_STRICT_DRIFT", "HUB_STRICT_CONSISTENCY", "HUB_OPERATION_TIMEOUT_SECS",
  "HUB_CAPABILITIES_FILE"]

def readVariables : IO Variables := do
  let mut known : Table String := .empty
  for name in variableNames do
    if let some value ← IO.getEnv name then known := known.insert name value
  return known.get?

/-- Adds the file at a path. -/
def withFile (files : Files) (path : String) : IO Files := do
  let content : Except FileFault String ← try
      pure (.ok (← IO.FS.readFile path))
    catch
    | .noFileOrDirectory .. => pure (.error .absent)
    | e => pure (.error (.other (toString e)))
  return fun p => if p = path then content else files p

/-- Starts the hub with the files that the variables and the settings name. -/
def start : IO (Except StartFailure (Hub Store)) := do
  let env ← readVariables
  let files ← match HubConfig.nonblank env HubConfig.fileVariable with
    | some path => withFile .none (Text.trim path)
    | none => pure .none
  match CommandLine.loadConfig files env with
  | .error e => return .error e
  | .ok config =>
    let files ← match config.capabilitiesFile with
      | some path => withFile files path
      | none => pure files
    return CommandLine.startWith files config

def timeOfDay : IO Timestamp := do
  return ⟨(← Std.Time.Timestamp.now).toNanosecondsSinceUnixEpoch.val⟩

/-- A random number, from which identifiers are counted. -/
def seed : IO Nat := do
  return (← IO.getRandomBytes 15).toList.foldl (fun n b => 256 * n + b.toNat) 0

partial def serve (h : Hub Store) (input output : IO.FS.Stream) (e : Environment Store) :
    IO Unit := do
  let line ← input.getLine
  if line.isEmpty then return
  if Text.isAllBlank line then serve h input output e
  else
    let (answer, e) := (CommandLine.answer h line).run { e with now := ← timeOfDay }
    if let some a := answer then
      output.putStrLn a.print
      output.flush
    serve h input output e

/-- Runs the program and gives its exit code. -/
def program : IO UInt32 := do
  match ← start with
  | .error e =>
    IO.eprint e.report
    return 1
  | .ok hub =>
    serve hub (← IO.getStdin) (← IO.getStdout) { state := {}, unused := ← seed }
    return 0

end CasefileHub.Main

def main : IO UInt32 := CasefileHub.Main.program
