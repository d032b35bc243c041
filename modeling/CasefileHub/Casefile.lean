import CasefileHub.Timestamp
/-!
# Casefiles and tool sessions

A casefile groups tool sessions by their ids; a session is one conversation and may belong to a
casefile. Both are written as JSON with every field.
-/

namespace CasefileHub

structure Casefile where
  id : String
  title : String
  description : Option String := none
  tags : List String := []
  owner : Option String := none
  sessionIds : List String := []
  createdAt : Timestamp
  updatedAt : Timestamp
deriving DecidableEq, Repr

inductive ChatRole where
  | user | assistant
deriving DecidableEq, Repr

structure ChatMessage where
  role : ChatRole
  content : String
  timestamp : Timestamp
deriving DecidableEq, Repr

structure ToolSession where
  id : String
  casefileId : Option String := none
  userId : Option String := none
  title : Option String := none
  messages : List ChatMessage := []
  createdAt : Timestamp
deriving DecidableEq, Repr

namespace Casefile

def toJson (c : Casefile) : Json :=
  .obj [("created_at", c.createdAt.toJson),
    ("description", .ofOption .str c.description),
    ("id", .str c.id),
    ("owner", .ofOption .str c.owner),
    ("session_ids", .strings c.sessionIds),
    ("tags", .strings c.tags),
    ("title", .str c.title),
    ("updated_at", c.updatedAt.toJson)]

def decoder : Decoder Casefile :=
  .record "Casefile" <|
    mk <$> .required "id" .text
      <*> .required "title" .text
      <*> .optional "description" .text
      <*> .withDefault "tags" (.list .text) []
      <*> .optional "owner" .text
      <*> .withDefault "session_ids" (.list .text) []
      <*> .required "created_at" Timestamp.decoder
      <*> .required "updated_at" Timestamp.decoder

end Casefile

namespace ChatRole

def text : ChatRole → String
  | .user => "user"
  | .assistant => "assistant"

def decoder : Decoder ChatRole := .choice [("user", .user), ("assistant", .assistant)]

end ChatRole

namespace ChatMessage

def toJson (m : ChatMessage) : Json :=
  .obj [("content", .str m.content),
    ("role", .str m.role.text),
    ("timestamp", m.timestamp.toJson)]

def decoder : Decoder ChatMessage :=
  .record "ChatMessage" <|
    mk <$> .required "role" ChatRole.decoder
      <*> .required "content" .text
      <*> .required "timestamp" Timestamp.decoder

end ChatMessage

namespace ToolSession

def toJson (s : ToolSession) : Json :=
  .obj [("casefile_id", .ofOption .str s.casefileId),
    ("created_at", s.createdAt.toJson),
    ("id", .str s.id),
    ("messages", .arr (s.messages.map ChatMessage.toJson)),
    ("title", .ofOption .str s.title),
    ("user_id", .ofOption .str s.userId)]

end ToolSession

end CasefileHub
