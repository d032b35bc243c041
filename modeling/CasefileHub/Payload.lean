import CasefileHub.Casefile
import CasefileHub.Schema.Parameters
/-!
# Payloads

What the operations of the hub take and answer. Each payload has a name, a schema from which the
parameters of methods and tools come, a reader and a writer.
-/

namespace CasefileHub

/-- A typed payload. -/
class Payload (α : Type) where
  modelName : String
  schema : RootSchema
  decoder : Decoder α
  toJson : α → Json

namespace Payload

/-- The parameters of a payload's fields. -/
def parameters (α : Type) [Payload α] : List ParameterSpec := (schema α).parameters

/-- Any JSON value as a payload of its own. -/
instance : Payload Json where
  modelName := "AnyValue"
  schema := ⟨.trivial true, []⟩
  decoder := .json
  toJson := id

end Payload

namespace Schema

/-! ## Parts of payload schemas -/

/-- A field's text, described if it needs to be. -/
def text (description : Option String := none) (bounds : Option TextBounds := none) : Schema :=
  ofFacts
    { remarks := description.map fun d => ⟨some d, none⟩
      types := some (.single .string)
      text := bounds }

/-- A text that may be null. -/
def optionalText : Schema := ofFacts { types := some (.several [.string, .null]) }

/-- A text that is null when it is absent. -/
def defaultedText : Schema :=
  ofFacts { remarks := some ⟨none, some .null⟩, types := some (.several [.string, .null]) }

def count (description : String) : Schema :=
  ofFacts
    { remarks := some ⟨some description, none⟩
      types := some (.single .integer)
      number := some ⟨some (.finite (Binary64.zero false)), none⟩ }

def array (default : Option Json := none) : Schema :=
  ofFacts
    { remarks := default.map fun v => ⟨none, some v⟩
      types := some (.single .array)
      items := some {} }

def reference (name : String) : Schema := ofFacts { reference := some ("#/definitions/" ++ name) }

/-- An object with some properties, all required but those listed. -/
def object (description : Option String) (properties : List (String × Schema))
    (optional : List String := []) : Schema :=
  .keywords
    { remarks := description.map fun d => ⟨some d, none⟩
      types := some (.single .object)
      required := (properties.map Prod.fst).filter (!optional.contains ·) }
    none none none properties

end Schema

/-! ## Casefiles -/

structure CreateCasefile where
  title : String
  description : Option String := none
  tags : List String := []
deriving DecidableEq, Repr

def titleBounds : TextBounds := { minLength := some 1, maxLength := some 200 }

instance : Payload CreateCasefile where
  modelName := "CreateCasefileRequest"
  schema := ⟨.object (some "Create a casefile.")
    [("title", .text (some "Human-readable title.") (some titleBounds)),
      ("description", .defaultedText),
      ("tags", .array (some (.arr [])))]
    ["description", "tags"], []⟩
  decoder := .record "CreateCasefileRequest" <|
    CreateCasefile.mk <$> .required "title" .text
      <*> .optional "description" .text
      <*> .withDefault "tags" (.list .text) []
  toJson p := .obj [("description", .ofOption .str p.description), ("tags", .strings p.tags),
    ("title", .str p.title)]

structure CasefileCreated where
  casefileId : String
  title : String
  createdAt : Timestamp
deriving DecidableEq, Repr

instance : Payload CasefileCreated where
  modelName := "CreateCasefileResponse"
  schema := ⟨.object none
    [("casefile_id", .text), ("title", .text), ("created_at", .text)], []⟩
  decoder := .record "CreateCasefileResponse" <|
    CasefileCreated.mk <$> .required "casefile_id" .text
      <*> .required "title" .text
      <*> .required "created_at" Timestamp.decoder
  toJson p := .obj [("casefile_id", .str p.casefileId), ("created_at", p.createdAt.toJson),
    ("title", .str p.title)]

structure GetCasefile where
  casefileId : String
deriving DecidableEq, Repr

instance : Payload GetCasefile where
  modelName := "GetCasefileRequest"
  schema := ⟨.object (some "Read a casefile by id.") [("casefile_id", .text)], []⟩
  decoder := .record "GetCasefileRequest" <| GetCasefile.mk <$> .required "casefile_id" .text
  toJson p := .obj [("casefile_id", .str p.casefileId)]

structure CasefileRead where
  casefile : Casefile
deriving DecidableEq, Repr

instance : Payload CasefileRead where
  modelName := "GetCasefileResponse"
  schema := ⟨.object none [("casefile", .reference "Casefile")],
    [("Casefile", .object (some "A casefile groups related tool sessions.") [])]⟩
  decoder := .record "GetCasefileResponse" <|
    CasefileRead.mk <$> .required "casefile" Casefile.decoder
  toJson p := .obj [("casefile", p.casefile.toJson)]

structure AddSession where
  casefileId : String
  sessionId : String
deriving DecidableEq, Repr

instance : Payload AddSession where
  modelName := "AddSessionToCasefileRequest"
  schema := ⟨.object (some "Link an existing session to a casefile.")
    [("casefile_id", .text), ("session_id", .text)], []⟩
  decoder := .record "AddSessionToCasefileRequest" <|
    AddSession.mk <$> .required "casefile_id" .text <*> .required "session_id" .text
  toJson p := .obj [("casefile_id", .str p.casefileId), ("session_id", .str p.sessionId)]

structure SessionAdded where
  casefileId : String
  sessionId : String
  sessionCount : Nat
deriving DecidableEq, Repr

instance : Payload SessionAdded where
  modelName := "AddSessionToCasefileResponse"
  schema := ⟨.object none
    [("casefile_id", .text), ("session_id", .text),
      ("session_count", .count "Sessions linked after this call.")], []⟩
  decoder := .record "AddSessionToCasefileResponse" <|
    SessionAdded.mk <$> .required "casefile_id" .text
      <*> .required "session_id" .text
      <*> .required "session_count" .count
  toJson p := .obj [("casefile_id", .str p.casefileId), ("session_count", .nat p.sessionCount),
    ("session_id", .str p.sessionId)]

/-! ## Sessions and chat -/

structure CreateSession where
  title : Option String := none
deriving DecidableEq, Repr

instance : Payload CreateSession where
  modelName := "CreateSessionRequest"
  schema := ⟨.object
    (some ("Start a tool session. The owning casefile, if any, travels in request metadata under " ++
      "`casefile_id`."))
    [("title", .defaultedText)] ["title"], []⟩
  decoder := .record "CreateSessionRequest" <| CreateSession.mk <$> .optional "title" .text
  toJson p := .obj [("title", .ofOption .str p.title)]

structure SessionCreated where
  sessionId : String
  casefileId : Option String
  createdAt : Timestamp
deriving DecidableEq, Repr

instance : Payload SessionCreated where
  modelName := "CreateSessionResponse"
  schema := ⟨.object none
    [("session_id", .text), ("casefile_id", .optionalText), ("created_at", .text)]
    ["casefile_id"], []⟩
  decoder := .record "CreateSessionResponse" <|
    SessionCreated.mk <$> .required "session_id" .text
      <*> .nullable "casefile_id" .text
      <*> .required "created_at" Timestamp.decoder
  toJson p := .obj [("casefile_id", .ofOption .str p.casefileId),
    ("created_at", p.createdAt.toJson), ("session_id", .str p.sessionId)]

structure Chat where
  message : String
deriving DecidableEq, Repr

instance : Payload Chat where
  modelName := "ChatRequest"
  schema := ⟨.object (some "Process one chat message within the request's session.")
    [("message", .text none (some { minLength := some 1 }))], []⟩
  decoder := .record "ChatRequest" <| Chat.mk <$> .required "message" .text
  toJson p := .obj [("message", .str p.message)]

structure ChatReply where
  sessionId : String
  reply : ChatMessage
  messageCount : Nat
deriving DecidableEq, Repr

instance : Payload ChatReply where
  modelName := "ChatResponse"
  schema := ⟨.object none
    [("session_id", .text), ("reply", .reference "ChatMessage"),
      ("message_count", .count "Messages in the session after this exchange.")],
    [("ChatMessage", .object none [])]⟩
  decoder := .record "ChatResponse" <|
    ChatReply.mk <$> .required "session_id" .text
      <*> .required "reply" ChatMessage.decoder
      <*> .required "message_count" .count
  toJson p := .obj [("message_count", .nat p.messageCount), ("reply", p.reply.toJson),
    ("session_id", .str p.sessionId)]

/-! ## The composite operation -/

structure CreateCasefileWithSession where
  title : String
  description : Option String := none
  tags : List String := []
  autoStartSession : Bool := true
  sessionTitle : Option String := none
deriving DecidableEq, Repr

instance : Payload CreateCasefileWithSession where
  modelName := "CreateCasefileWithSessionRequest"
  schema := ⟨.object (some "Create a casefile and, optionally, a tool session linked to it.")
    [("title", .text none (some titleBounds)),
      ("description", .defaultedText),
      ("tags", .array (some (.arr []))),
      ("auto_start_session", .ofFacts
        { remarks := some ⟨some "Start a dependent session right away.", some (.bool true)⟩
          types := some (.single .boolean) }),
      ("session_title", .defaultedText)]
    ["description", "tags", "auto_start_session", "session_title"], []⟩
  decoder := .record "CreateCasefileWithSessionRequest" <|
    CreateCasefileWithSession.mk <$> .required "title" .text
      <*> .optional "description" .text
      <*> .withDefault "tags" (.list .text) []
      <*> .withDefault "auto_start_session" .bool true
      <*> .optional "session_title" .text
  toJson p := .obj [("auto_start_session", .bool p.autoStartSession),
    ("description", .ofOption .str p.description),
    ("session_title", .ofOption .str p.sessionTitle), ("tags", .strings p.tags),
    ("title", .str p.title)]

/-- A session that depends on a casefile. -/
structure ResourceLink where
  primaryId : String
  dependentId : String
deriving DecidableEq, Repr

namespace ResourceLink

def decoder : Decoder ResourceLink :=
  .record "ResourceLink" <|
    mk <$> .required "primary_id" .text <*> .required "dependent_id" .text

def toJson (l : ResourceLink) : Json :=
  .obj [("dependent_id", .str l.dependentId), ("primary_id", .str l.primaryId)]

end ResourceLink

structure CasefileWithSessionCreated where
  casefileId : String
  sessionId : Option String
  links : List ResourceLink
deriving DecidableEq, Repr

instance : Payload CasefileWithSessionCreated where
  modelName := "CreateCasefileWithSessionResponse"
  schema := ⟨.object none
    [("casefile_id", .text), ("session_id", .optionalText), ("links", .array)]
    ["session_id"], []⟩
  decoder := .record "CreateCasefileWithSessionResponse" <|
    CasefileWithSessionCreated.mk <$> .required "casefile_id" .text
      <*> .nullable "session_id" .text
      <*> .required "links" (.list ResourceLink.decoder)
  toJson p := .obj [("casefile_id", .str p.casefileId),
    ("links", .arr (p.links.map ResourceLink.toJson)),
    ("session_id", .ofOption .str p.sessionId)]

/-! ## All models -/

/-- The name and the parameters of a payload. -/
structure Model where
  name : String
  parameters : List ParameterSpec
deriving Repr

def Model.of (α : Type) [Payload α] : Model := ⟨Payload.modelName α, Payload.parameters α⟩

/-- The models of the built-in operations. -/
def builtinModels : List Model := [
  .of CreateCasefile, .of CasefileCreated, .of GetCasefile, .of CasefileRead,
  .of AddSession, .of SessionAdded, .of CreateSession, .of SessionCreated,
  .of Chat, .of ChatReply, .of CreateCasefileWithSession, .of CasefileWithSessionCreated]

end CasefileHub
