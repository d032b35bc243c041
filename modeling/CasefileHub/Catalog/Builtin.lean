import CasefileHub.Catalog
/-!
# The built-in catalog

Six methods on casefiles, sessions and chat, a tool bound to each, and the models of their payloads.
The built-in records declare the same methods.
-/

namespace CasefileHub

namespace OperationName

def createCasefile : String := "casefile.create"
def getCasefile : String := "casefile.get"
def addSession : String := "casefile.add_session"
def createSession : String := "tool_session.create"
def processChat : String := "chat.process"
def createCasefileWithSession : String := "workflow.create_casefile_with_session"

end OperationName

namespace Method

/-- A method over typed payloads, with the parameters of its request. -/
def ofPayloads (request response : Type) [Payload request] [Payload response] (name description : String)
    (classification : Classification) (owner : Owner) (rules : MethodRules) : Method where
  name := name
  description := description
  classification := classification
  owner := owner
  rules := rules
  requestModel := Payload.modelName request
  responseModel := Payload.modelName response
  parameters := Payload.parameters request

def createCasefile : Method :=
  .ofPayloads CreateCasefile CasefileCreated OperationName.createCasefile "Create a new casefile"
    (.atomic .workspace .casefile .create)
    ⟨"CasefileService", "casefile", "create"⟩
    { requiredPermissions := ["casefile:write"], transactional := true }

def getCasefile : Method :=
  .ofPayloads GetCasefile CasefileRead OperationName.getCasefile "Read a casefile by id"
    (.atomic .workspace .casefile .read)
    ⟨"CasefileService", "casefile", "get"⟩
    { requiredPermissions := ["casefile:read"], idempotent := true }

def addSession : Method :=
  .ofPayloads AddSession SessionAdded OperationName.addSession "Link a tool session to a casefile"
    (.atomic .workspace .casefile .link)
    ⟨"CasefileService", "casefile", "add_session"⟩
    { requiredPermissions := ["casefile:write"], idempotent := true }

def createSession : Method :=
  .ofPayloads CreateSession SessionCreated OperationName.createSession "Start a tool session"
    (.atomic .workspace .toolSession .create)
    ⟨"SessionService", "tool_session", "create"⟩
    { requiredPermissions := ["session:write"] }

def processChat : Method :=
  .ofPayloads Chat ChatReply OperationName.processChat "Process a chat message within a session"
    { Classification.atomic .communication .chat .process with integrationTier := .hybrid }
    ⟨"CommunicationService", "chat", "process_chat"⟩
    { requiredPermissions := ["chat:use"] }

def createCasefileWithSession : Method :=
  .ofPayloads CreateCasefileWithSession CasefileWithSessionCreated
    OperationName.createCasefileWithSession "Create a casefile and start a linked tool session"
    { Classification.atomic .automation .workflow .create with
      complexity := .composite, maturity := .beta }
    ⟨"RequestHub", "workflow", "create_casefile_with_session"⟩
    { requiredPermissions := ["casefile:write", "session:write"] }

def builtin : List Method := [createCasefile, getCasefile, addSession, createSession, processChat,
  createCasefileWithSession]

end Method

namespace Tool

/-- A tool bound to a method, tagged with the method's verb and the tool's category. -/
def forMethod (m : Method) (name category : String) (rules : ToolRules) : Tool :=
  Tool.bind
    { info :=
        { name := name
          displayName := name
          description := m.description
          category := category
          tags := [Vocabulary.text m.classification.capability, category] }
      rules := rules }
    m

def builtin : List Tool := [
  .forMethod .createCasefile "create_casefile_tool" "casefile"
    { requiresAuth := true, perMinute := some 30 },
  .forMethod .getCasefile "get_casefile_tool" "casefile" {},
  .forMethod .addSession "add_session_to_casefile_tool" "casefile"
    { requiresAuth := true, requiresCasefile := true, maxRetries := 2 },
  .forMethod .createSession "create_session_tool" "session" { requiresAuth := true },
  .forMethod .processChat "chat_tool" "communication"
    { perMinute := some 60, perHour := some 1000, timeoutSeconds := some 60 },
  .forMethod .createCasefileWithSession "create_casefile_with_session_tool" "workflow"
    { requiresAuth := true }]

end Tool

namespace Catalog

def builtin : Catalog where
  methods := Method.builtin.foldl Registry.replace .empty
  tools := Tool.builtin.foldl Registry.replace .empty
  models := builtinModels.foldl Registry.replace .empty

end Catalog

namespace CapabilityRecord

/-- The record that declares a method. -/
def declaring (m : Method) : CapabilityRecord where
  name := m.name
  domain := m.classification.text .domain
  subdomain := m.classification.text .subdomain
  capability := m.classification.text .capability
  complexity := m.classification.text .complexity
  maturity := m.classification.text .maturity
  integrationTier := m.classification.text .integrationTier
  service := m.owner.service
  module := m.owner.module
  function := m.owner.function
  requiredPermissions := m.rules.requiredPermissions
  requestModel := m.requestModel
  responseModel := m.responseModel

def builtin : List CapabilityRecord := Method.builtin.map declaring

end CapabilityRecord

end CasefileHub
