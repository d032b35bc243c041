import CasefileHub.Proofs.Store.Operations
/-!
# Calls on record

The services over a state, with a record of every call beside it: which request, and what was
answered. A call that is given up at a deadline is on record without an answer. The record changes
nothing of what the services do.

    (call q wrap c >>= f).run d (e.recording asked) goes on as c does        (run_call_bind)
-/

namespace CasefileHub

variable {σ τ α β : Type}

/-- The environment over another state. -/
def Environment.map (f : σ → τ) (e : Environment σ) : Environment τ :=
  { e with state := f e.state }

/-- A call of a service with its answer, if it was not given up. -/
structure Asked where
  request : ServiceRequest
  answer : Option (Except ServiceError ServiceAnswer)

/-- A state, and the calls that were made on it, in order. -/
structure Recorded (σ : Type) where
  state : σ
  asked : List Asked := []

/-- The environment with some calls on record. -/
def Environment.recording (e : Environment σ) (asked : List Asked) : Environment (Recorded σ) :=
  e.map (⟨·, asked⟩)

namespace Recorded

def update (s : σ) (r : Recorded σ) : Recorded σ := { r with state := s }

/-- A call that is put on record with its answer. -/
def call (q : ServiceRequest) (wrap : α → ServiceAnswer) (c : ServiceCall σ α) :
    ServiceCall (Recorded σ) α :=
  ExceptT.mk fun d e =>
    let (answer, e') := c.run d (e.map state)
    (answer, e'.recording (e.state.asked ++ [⟨q, answer.map (Except.map wrap)⟩]))

theorem run_call (q : ServiceRequest) (wrap : α → ServiceAnswer) (c : ServiceCall σ α)
    (d : Option Nat) (e : Environment σ) (asked : List Asked) :
    (call q wrap c).run d (e.recording asked) =
      ((c.run d e).1, (c.run d e).2.recording
        (asked ++ [⟨q, (c.run d e).1.map (Except.map wrap)⟩])) := rfl

theorem run_call_bind (q : ServiceRequest) (wrap : α → ServiceAnswer) (c : ServiceCall σ α)
    (f : α → ServiceCall (Recorded σ) β) (d : Option Nat) (e : Environment σ)
    (asked : List Asked) :
    (call q wrap c >>= f).run d (e.recording asked) =
      match c.run d e with
      | (some (.ok a), e') => (f a).run d (e'.recording (asked ++ [⟨q, some (.ok (wrap a))⟩]))
      | (some (.error err), e') =>
        (some (.error err), e'.recording (asked ++ [⟨q, some (.error err)⟩]))
      | (none, e') => (none, e'.recording (asked ++ [⟨q, none⟩])) := by
  rw [ServiceCall.run_bind_apply, run_call]
  rcases c.run d e with ⟨_ | _ | a, e'⟩ <;> rfl

end Recorded

/-- The services, with every call on record; look-ups are not. -/
def Services.recorded (s : Services σ) : Services (Recorded σ) where
  session? id := (s.session? id).focus Recorded.state Recorded.update
  casefile? id := (s.casefile? id).focus Recorded.state Recorded.update
  createCasefile q := Recorded.call (.createCasefile q) .casefileCreated (s.createCasefile q)
  getCasefile q := Recorded.call (.getCasefile q) .casefileRead (s.getCasefile q)
  addSession q := Recorded.call (.addSession q) .sessionAdded (s.addSession q)
  createSession q := Recorded.call (.createSession q) .sessionCreated (s.createSession q)
  processChat q := Recorded.call (.processChat q) .chatReply (s.processChat q)

namespace Services

variable (s : Services σ)

@[simp] theorem recorded_createCasefile (q : Request CreateCasefile) :
    s.recorded.createCasefile q =
      Recorded.call (.createCasefile q) .casefileCreated (s.createCasefile q) := rfl

@[simp] theorem recorded_createSession (q : Request CreateSession) :
    s.recorded.createSession q =
      Recorded.call (.createSession q) .sessionCreated (s.createSession q) := rfl

@[simp] theorem recorded_addSession (q : Request AddSession) :
    s.recorded.addSession q =
      Recorded.call (.addSession q) .sessionAdded (s.addSession q) := rfl

end Services

end CasefileHub
