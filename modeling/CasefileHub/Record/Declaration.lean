import CasefileHub.Record
import CasefileHub.Files
import CasefileHub.Yaml.Decode
/-!
# Declared records

A declaration is a YAML text with the records under `capabilities`.
-/

namespace CasefileHub.CapabilityRecord

open Yaml (Reader)

def reader : Reader CapabilityRecord :=
  .record <|
    mk <$> .required "name" .text
      <*> .required "domain" .text
      <*> .required "subdomain" .text
      <*> .required "capability" .text
      <*> .withDefault "complexity" .text "atomic"
      <*> .withDefault "maturity" .text "stable"
      <*> .withDefault "integration_tier" .text "internal"
      <*> .required "service" .text
      <*> .withDefault "module" .text ""
      <*> .withDefault "function" .text ""
      <*> .withDefault "required_permissions" (.list .text) []
      <*> .required "request_model" .text
      <*> .required "response_model" .text

/-- The records that a text declares. -/
def parseAll (text : String) : Except HubError (List CapabilityRecord) :=
  Reader.parse (.record (.required "capabilities" (.list reader))) text

/-- The records that a file declares. -/
def readAll (files : Files) (path : String) : Except HubError (List CapabilityRecord) := do
  parseAll (← files.read path)

end CasefileHub.CapabilityRecord
