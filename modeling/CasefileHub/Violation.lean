import CasefileHub.Bound
import CasefileHub.Json.Reader
/-!
# Violations of parameter rules

What is wrong with the value of a field, as a cause; `Reason.message` has the wording.
-/

namespace CasefileHub

inductive Reason where
  | required
  | null
  | type (expected : String)
  | belowMinimum (min : Bound)
  | aboveMaximum (max : Bound)
  | tooShort (min : Nat)
  | tooLong (max : Nat)
  | notAllowed (allowed : List Json)
  | unmatched (pattern : String)
  | badPattern (pattern : String)
  | unknown
  | unreadable (e : Json.ReadError)
  | noObject
  | undecodable (e : Json.DecodeError)
  | stated (text : String)
deriving DecidableEq, Repr

def Reason.message : Reason → String
  | .required => "is required"
  | .null => "must not be null"
  | .type expected => "expected " ++ expected
  | .belowMinimum min => "must be >= " ++ min.plainText
  | .aboveMaximum max => "must be <= " ++ max.plainText
  | .tooShort min => "length must be >= " ++ Nat.repr min
  | .tooLong max => "length must be <= " ++ Nat.repr max
  | .notAllowed allowed => "must be one of " ++ (Json.arr allowed).print
  | .unmatched pattern => "must match pattern '" ++ pattern ++ "'"
  | .badPattern pattern => "invalid pattern '" ++ pattern ++ "'"
  | .unknown => "unknown parameter"
  | .unreadable e => "failed to parse arguments as JSON: " ++ e.message
  | .noObject => "arguments must be a JSON object"
  | .undecodable e => e.message
  | .stated text => text

structure Violation where
  field : String
  reason : Reason
deriving DecidableEq, Repr

namespace Violation

def message (v : Violation) : String := v.field ++ ": " ++ v.reason.message

def toJson (v : Violation) : Json :=
  .obj [("field", .str v.field), ("reason", .str v.reason.message)]

def decoder : Decoder Violation :=
  .record "FieldViolation" <|
    (fun field text => ⟨field, .stated text⟩) <$> .required "field" .text
      <*> .required "reason" .text

/-- All violations of one validation. -/
def summary (vs : List Violation) : String :=
  "Validation failed: " ++ Text.join "; " (vs.map message)

end Violation

end CasefileHub
