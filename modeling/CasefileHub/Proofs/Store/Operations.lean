import CasefileHub.Proofs.Service
import CasefileHub.Proofs.Store
/-!
# What the operations of the store do

All calls of the services as one operation of the store: a request and a number give an answer and
a new store, or an error. What an operation that succeeds has found, and what it answers and leaves
behind, is an `Effect`, with one case for each kind of request:

    s.perform n now q = ok (a, s') ↔ Effect n now s q a s' (effect_of_perform, perform_of_effect)
    a call of Store.services performs its request on the state              (serve_apply)
-/

namespace CasefileHub

/-- An answer of one of the services. -/
inductive ServiceAnswer where
  | casefileCreated (a : CasefileCreated)
  | casefileRead (a : CasefileRead)
  | sessionAdded (a : SessionAdded)
  | sessionCreated (a : SessionCreated)
  | chatReply (a : ChatReply)
deriving DecidableEq, Repr

/-- Calls the service that a request is for. -/
def Services.serve {σ : Type} (s : Services σ) : ServiceRequest → ServiceCall σ ServiceAnswer
  | .createCasefile r => .casefileCreated <$> s.createCasefile r
  | .getCasefile r => .casefileRead <$> s.getCasefile r
  | .addSession r => .sessionAdded <$> s.addSession r
  | .createSession r => .sessionCreated <$> s.createSession r
  | .processChat r => .chatReply <$> s.processChat r

/-- How many numbers for identifiers a request uses up, also when it fails. -/
def ServiceRequest.numbers : ServiceRequest → Nat
  | .createCasefile _ | .createSession _ => 1
  | .getCasefile _ | .addSession _ | .processChat _ => 0

namespace Store

/-! ## Changes -/

def putCasefile (s : Store) (id : String) (c : Casefile) : Store :=
  { s with casefiles := s.casefiles.insert id c }

def putSession (s : Store) (id : String) (t : ToolSession) : Store :=
  { s with sessions := s.sessions.insert id t }

section
variable (s : Store) (id m : String) (c : Casefile) (t : ToolSession)

@[simp] theorem casefile?_putCasefile :
    (s.putCasefile id c).casefile? m = if m = id then some c else s.casefile? m :=
  Table.get?_insert s.casefiles id m c

@[simp] theorem session?_putCasefile : (s.putCasefile id c).session? m = s.session? m := rfl

@[simp] theorem session?_putSession :
    (s.putSession id t).session? m = if m = id then some t else s.session? m :=
  Table.get?_insert s.sessions id m t

@[simp] theorem casefile?_putSession : (s.putSession id t).casefile? m = s.casefile? m := rfl

end

/-! ## Records -/

/-- The casefile that a request creates. -/
def newCasefile (id : String) (now : Timestamp) (r : Request CreateCasefile) : Casefile where
  id := id
  title := Text.trim r.payload.title
  description := r.payload.description
  tags := r.payload.tags
  owner := r.userId
  createdAt := now
  updatedAt := now

/-- The session that a request creates. -/
def newSession (id : String) (now : Timestamp) (r : Request CreateSession) : ToolSession where
  id := id
  casefileId := r.metadataCasefile?
  userId := r.userId
  title := r.payload.title
  createdAt := now

/-- A session in a casefile. -/
def inCasefile (t : ToolSession) (casefileId : String) : ToolSession :=
  { t with casefileId := some casefileId }

/-- A session after a message and the answer to it. -/
def answered (t : ToolSession) (text : String) (now : Timestamp) : ToolSession :=
  { t with messages := t.messages ++ [⟨.user, text, now⟩, reply text now] }

/-! ## Effects -/

/-- The operation that a request is for; a new record gets the identifier of the number. -/
def perform (n : Nat) (now : Timestamp) (s : Store) :
    ServiceRequest → Except ServiceError (ServiceAnswer × Store)
  | .createCasefile r =>
    (s.createCasefile (Identifier.casefile n) now r).map (Prod.map .casefileCreated id)
  | .getCasefile r => (s.getCasefile r).map fun a => (.casefileRead a, s)
  | .addSession r => (s.addSession now r).map (Prod.map .sessionAdded id)
  | .createSession r =>
    (s.createSession (Identifier.session n) now r).map (Prod.map .sessionCreated id)
  | .processChat r => (s.processChat now r).map (Prod.map .chatReply id)

/-- What an operation that succeeds finds in the store, what it answers and which store it leaves
behind. -/
inductive Effect (n : Nat) (now : Timestamp) (s : Store) :
    ServiceRequest → ServiceAnswer → Store → Prop
  | casefileCreated {r : Request CreateCasefile} (htitle : Text.trim r.payload.title ≠ "") :
      Effect n now s (.createCasefile r)
        (.casefileCreated ⟨Identifier.casefile n, Text.trim r.payload.title, now⟩)
        (s.putCasefile (Identifier.casefile n) (newCasefile (Identifier.casefile n) now r))
  | casefileRead {r : Request GetCasefile} {c : Casefile}
      (hc : s.casefile? r.payload.casefileId = some c) :
      Effect n now s (.getCasefile r) (.casefileRead ⟨c⟩) s
  | sessionAdded {r : Request AddSession} {c : Casefile} {t : ToolSession}
      (hc : s.casefile? r.payload.casefileId = some c)
      (ht : s.session? r.payload.sessionId = some t) :
      Effect n now s (.addSession r)
        (.sessionAdded ⟨r.payload.casefileId, r.payload.sessionId,
          (linked c r.payload.sessionId now).sessionIds.length⟩)
        ((s.putCasefile r.payload.casefileId (linked c r.payload.sessionId now)).putSession
          r.payload.sessionId (inCasefile t r.payload.casefileId))
  | sessionCreated {r : Request CreateSession}
      (hscope : ∀ id, r.metadataCasefile? = some id → (s.casefile? id).isSome) :
      Effect n now s (.createSession r)
        (.sessionCreated ⟨Identifier.session n, r.metadataCasefile?, now⟩)
        (s.putSession (Identifier.session n) (newSession (Identifier.session n) now r))
  | chatReply {r : Request Chat} {id : String} {t : ToolSession} (hid : r.sessionId = some id)
      (ht : s.session? id = some t) :
      Effect n now s (.processChat r)
        (.chatReply ⟨id, reply r.payload.message now,
          (answered t r.payload.message now).messages.length⟩)
        (s.putSession id (answered t r.payload.message now))

section
variable {n : Nat} {now : Timestamp} {s s' : Store} {a : ServiceAnswer}

theorem filter_missing_eq_none_iff (casefileId : Option String) :
    casefileId.filter (!s.casefiles.contains ·) = none ↔
      ∀ id, casefileId = some id → (s.casefile? id).isSome := by
  cases casefileId with
  | none => simp
  | some id => simp [Option.filter, Table.contains, casefile?, Option.isSome_iff_ne_none]

theorem createCasefile_eq (id : String) (r : Request CreateCasefile) :
    s.createCasefile id now r =
      if Text.trim r.payload.title = "" then .error (.invalid "title must not be blank")
      else
        .ok (⟨id, Text.trim r.payload.title, now⟩, s.putCasefile id (newCasefile id now r)) := by
  unfold createCasefile
  simp only [String.isEmpty_iff]
  rfl

theorem perform_of_effect {q : ServiceRequest} (h : Effect n now s q a s') :
    s.perform n now q = .ok (a, s') := by
  cases h with
  | casefileCreated htitle =>
    simp only [perform, createCasefile_eq, if_neg htitle]
    rfl
  | casefileRead hc =>
    simp only [perform, getCasefile, hc]
    rfl
  | sessionAdded hc ht =>
    simp only [perform, addSession, hc, ht]
    rfl
  | sessionCreated hscope =>
    simp only [perform, createSession, (filter_missing_eq_none_iff _).2 hscope]
    rfl
  | chatReply hid ht =>
    simp only [perform, processChat, hid, ht]
    rfl

theorem effect_of_perform {q : ServiceRequest} (h : s.perform n now q = .ok (a, s')) :
    Effect n now s q a s' := by
  cases q with
  | createCasefile r =>
    simp only [perform, createCasefile_eq] at h
    split at h
    · cases h
    · rename_i htitle
      cases h
      exact .casefileCreated htitle
  | getCasefile r =>
    simp only [perform, getCasefile] at h
    split at h
    · rename_i c hc
      cases h
      exact .casefileRead hc
    · cases h
  | addSession r =>
    simp only [perform, addSession] at h
    split at h
    · cases h
    · cases h
    · rename_i ht hc
      cases h
      exact .sessionAdded hc ht
  | createSession r =>
    simp only [perform, createSession] at h
    split at h
    · cases h
    · rename_i hfound
      cases h
      exact .sessionCreated ((filter_missing_eq_none_iff _).1 hfound)
  | processChat r =>
    simp only [perform, processChat] at h
    split at h
    · cases h
    · rename_i id hid
      split at h
      · cases h
      · rename_i t ht
        cases h
        exact .chatReply hid ht

end

/-! ## Calls -/

/-- What a call on the store comes to: an answer and the new store, or an error. -/
def settle {α : Type} (e : Environment Store) :
    Except ServiceError (α × Store) → Option (Except ServiceError α) × Environment Store
  | .ok (a, s) => (some (.ok a), { e with state := s })
  | .error err => (some (.error err), e)

section
variable {α β : Type} (g : α → β) (d : Option Nat) (e : Environment Store)

theorem map_call_apply (f : Timestamp → Store → Except ServiceError (α × Store)) :
    (g <$> call f).run d e = settle e ((f e.now e.state).map (Prod.map g id)) := by
  rw [ExceptT.run_map, Timed.map_apply, call_apply]
  rcases f e.now e.state with _ | ⟨_, _⟩ <;> rfl

theorem map_fresh_bind_apply (f : Nat → ServiceCall Store α) :
    (g <$> (fresh >>= f)).run d e =
      (g <$> f e.unused).run d { e with unused := e.unused + 1 } := by
  rw [ExceptT.run_map, Timed.map_apply, ServiceCall.run_bind_apply, fresh_apply, ExceptT.run_map,
    Timed.map_apply]

end

/-- A call of a service performs its request on the state, at once and whatever the deadline, and
uses up its numbers. -/
theorem serve_apply (q : ServiceRequest) (d : Option Nat) (e : Environment Store) :
    (services.serve q).run d e =
      settle { e with unused := e.unused + q.numbers } (e.state.perform e.unused e.now q) := by
  cases q with
  | createCasefile r => exact (map_fresh_bind_apply _ d e _).trans (map_call_apply _ d _ _)
  | getCasefile r =>
    have hlook := map_call_apply ServiceAnswer.casefileRead d e
      fun _ s => (s.getCasefile r).map (·, s)
    refine hlook.trans ?_
    simp only [perform]
    cases e.state.getCasefile r <;> rfl
  | addSession r =>
    exact map_call_apply ServiceAnswer.sessionAdded d e fun now s => s.addSession now r
  | createSession r => exact (map_fresh_bind_apply _ d e _).trans (map_call_apply _ d _ _)
  | processChat r =>
    exact map_call_apply ServiceAnswer.chatReply d e fun now s => s.processChat now r

end Store

end CasefileHub
