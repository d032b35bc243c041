import CasefileHub.Service
import CasefileHub.Identifier
/-!
# The store

Casefiles and sessions by their ids. Each operation takes the fresh id and the time that it may
need, and either answers with the new store or fails, and then there is no new store: every check
comes before every change. Nothing is ever removed.
-/

namespace CasefileHub

structure Store where
  casefiles : Table Casefile := .empty
  sessions : Table ToolSession := .empty
deriving DecidableEq, Repr, Inhabited

namespace Store

def casefile? (s : Store) (id : String) : Option Casefile := s.casefiles.get? id

def session? (s : Store) (id : String) : Option ToolSession := s.sessions.get? id

/-! ## Operations -/

/-- Stores a casefile under a fresh id. Its title is trimmed, and must not be blank. -/
def createCasefile (id : String) (now : Timestamp) (r : Request CreateCasefile) (s : Store) :
    Except ServiceError (CasefileCreated × Store) :=
  let title := Text.trim r.payload.title
  if title.isEmpty then .error (.invalid "title must not be blank")
  else
    let casefile : Casefile :=
      { id := id
        title := title
        description := r.payload.description
        tags := r.payload.tags
        owner := r.userId
        createdAt := now
        updatedAt := now }
    .ok (⟨id, title, now⟩, { s with casefiles := s.casefiles.insert id casefile })

def getCasefile (r : Request GetCasefile) (s : Store) : Except ServiceError CasefileRead :=
  match s.casefile? r.payload.casefileId with
  | some c => .ok ⟨c⟩
  | none => .error (.notFound .casefile r.payload.casefileId)

/-- A casefile with a session among its sessions. Only a new one changes it. -/
def linked (c : Casefile) (sessionId : String) (now : Timestamp) : Casefile :=
  if sessionId ∈ c.sessionIds then c
  else { c with sessionIds := c.sessionIds ++ [sessionId], updatedAt := now }

/-- Links a session to a casefile; the session must exist, and then the casefile. -/
def addSession (now : Timestamp) (r : Request AddSession) (s : Store) :
    Except ServiceError (SessionAdded × Store) :=
  let ⟨casefileId, sessionId⟩ := r.payload
  match s.session? sessionId, s.casefile? casefileId with
  | none, _ => .error (.notFound .toolSession sessionId)
  | some _, none => .error (.notFound .casefile casefileId)
  | some session, some casefile =>
    let casefile := linked casefile sessionId now
    .ok (⟨casefileId, sessionId, casefile.sessionIds.length⟩,
      { casefiles := s.casefiles.insert casefileId casefile
        sessions := s.sessions.insert sessionId { session with casefileId := some casefileId } })

/-- Stores a session under a fresh id, in the casefile that the metadata name, if they do. -/
def createSession (id : String) (now : Timestamp) (r : Request CreateSession) (s : Store) :
    Except ServiceError (SessionCreated × Store) :=
  let casefileId := r.metadataCasefile?
  match casefileId.filter (!s.casefiles.contains ·) with
  | some missing => .error (.notFound .casefile missing)
  | none =>
    let session : ToolSession :=
      { id := id
        casefileId := casefileId
        userId := r.userId
        title := r.payload.title
        createdAt := now }
    .ok (⟨id, casefileId, now⟩, { s with sessions := s.sessions.insert id session })

/-- The answer to a chat message. -/
def reply (text : String) (now : Timestamp) : ChatMessage :=
  ⟨.assistant, "Received: " ++ text, now⟩

/-- Adds a message and its answer to the session of the request. -/
def processChat (now : Timestamp) (r : Request Chat) (s : Store) :
    Except ServiceError (ChatReply × Store) :=
  match r.sessionId with
  | none => .error (.invalid "chat requires a session_id")
  | some id =>
    match s.session? id with
    | none => .error (.notFound .toolSession id)
    | some session =>
      let answer := reply r.payload.message now
      let messages := session.messages ++ [⟨.user, r.payload.message, now⟩, answer]
      .ok (⟨id, answer, messages.length⟩,
        { s with sessions := s.sessions.insert id { session with messages := messages } })

/-! ## The store as services -/

/-- Applies an operation that takes no time to the store; a failing one leaves it as it was. -/
def call {α : Type} (f : Timestamp → Store → Except ServiceError (α × Store)) :
    ServiceCall Store α :=
  ExceptT.mk <| Timed.step fun e =>
    match f e.now e.state with
    | .ok (a, s) => (.ok a, { e with state := s })
    | .error err => (.error err, e)

/-- A number for a new identifier. -/
def fresh : ServiceCall Store Nat := ExceptT.lift Timed.fresh

/-- A look-up, which changes nothing. -/
def look {α : Type} (f : Store → Except ServiceError α) : ServiceCall Store α :=
  call fun _ s => (f s).map (·, s)

/-- Services over a store alone. -/
def services : Services Store where
  session? id := look fun s => .ok (s.session? id)
  casefile? id := look fun s => .ok (s.casefile? id)
  createCasefile r := do
    let n ← fresh
    call fun now s => s.createCasefile (Identifier.casefile n) now r
  getCasefile r := look fun s => s.getCasefile r
  addSession r := call fun now s => s.addSession now r
  createSession r := do
    let n ← fresh
    call fun now s => s.createSession (Identifier.session n) now r
  processChat r := call fun now s => s.processChat now r

end Store

end CasefileHub
