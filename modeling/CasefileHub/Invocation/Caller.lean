import CasefileHub.Json.Decode
/-!
# Callers

On whose behalf a tool is invoked, and with what roles and permissions.
-/

namespace CasefileHub

structure Caller where
  userId : Option String := none
  sessionId : Option String := none
  casefileId : Option String := none
  roles : List String := []
  permissions : List String := []
  authenticated : Bool := false
deriving DecidableEq, Repr

def Caller.decoder : Decoder Caller :=
  .record "CallerContext" <|
    mk <$> .optional "user_id" .text
      <*> .optional "session_id" .text
      <*> .optional "casefile_id" .text
      <*> .withDefault "roles" (.list .text) []
      <*> .withDefault "permissions" (.list .text) []
      <*> .withDefault "authenticated" .bool false

end CasefileHub
