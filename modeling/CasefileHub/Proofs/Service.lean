import CasefileHub.Proofs.Timed.Alike
import CasefileHub.Store
/-!
# Services side by side

The core of a request is what is left without the context, the hooks, the hints and the directives
that it carries. Services are alike for a relation on states when calls of the same core are, whatever
the repositories do. So are services that do not read the rest of a request, also when their calls
are noted, up to that rest:

    s.Agree s' → Services.Alike Eq s s' on states, and the noted calls have the same cores
                                                                       (Services.Agree.noted_alike)
    the repositories of s are silent → those of s.noted are                (Services.Silent.noted)
-/

namespace CasefileHub

variable {σ τ α P : Type}

/-! ## Cores of requests -/

/-- The request without what it says on context, hooks, policy and routing. -/
def Request.core (r : Request P) : Request P :=
  { r with contextRequirements := [], hooks := [], policyHints := {}, routeDirectives := .empty }

/-- A function that does not read more than the core. -/
theorem Request.eq_of_core {f : Request P → α} (h : ∀ r, f r = f r.core) (r r' : Request P)
    (hr : r.core = r'.core) : f r = f r' := by
  rw [h r, hr, ← h r']

/-- A request to one of the services. -/
inductive ServiceRequest where
  | createCasefile (r : Request CreateCasefile)
  | getCasefile (r : Request GetCasefile)
  | addSession (r : Request AddSession)
  | createSession (r : Request CreateSession)
  | processChat (r : Request Chat)
deriving DecidableEq, Repr

def ServiceRequest.core : ServiceRequest → ServiceRequest
  | .createCasefile r => .createCasefile r.core
  | .getCasefile r => .getCasefile r.core
  | .addSession r => .addSession r.core
  | .createSession r => .createSession r.core
  | .processChat r => .processChat r.core

/-! ## Services that are alike -/

namespace Services

/-- Calls of the same core are alike; nothing is said on the repositories. -/
structure Alike (R : σ → τ → Prop) (s : Services σ) (s' : Services τ) : Prop where
  createCasefile : ∀ q q', q.core = q'.core → (s.createCasefile q).Alike R (s'.createCasefile q')
  getCasefile : ∀ q q', q.core = q'.core → (s.getCasefile q).Alike R (s'.getCasefile q')
  addSession : ∀ q q', q.core = q'.core → (s.addSession q).Alike R (s'.addSession q')
  createSession : ∀ q q', q.core = q'.core → (s.createSession q).Alike R (s'.createSession q')
  processChat : ∀ q q', q.core = q'.core → (s.processChat q).Alike R (s'.processChat q')

/-- The same services, which read no more than the core of a request, beside any repositories. -/
structure Agree (s s' : Services σ) : Prop where
  createCasefile : ∀ q q', q.core = q'.core → s.createCasefile q = s'.createCasefile q'
  getCasefile : ∀ q q', q.core = q'.core → s.getCasefile q = s'.getCasefile q'
  addSession : ∀ q q', q.core = q'.core → s.addSession q = s'.addSession q'
  createSession : ∀ q q', q.core = q'.core → s.createSession q = s'.createSession q'
  processChat : ∀ q q', q.core = q'.core → s.processChat q = s'.processChat q'

/-- The repositories find a record, find none or fail, at once and without a trace. -/
structure Silent (s : Services σ) : Prop where
  session? : ∀ id, (s.session? id).run.Silent
  casefile? : ∀ id, (s.casefile? id).run.Silent

end Services

/-- The services of the store read no more than the core of a request. -/
theorem Store.services_agree (session? : String → ServiceCall Store (Option ToolSession))
    (casefile? : String → ServiceCall Store (Option Casefile)) :
    Store.services.Agree
      { Store.services with session? := session?, casefile? := casefile? } where
  createCasefile := Request.eq_of_core fun _ => rfl
  getCasefile := Request.eq_of_core fun _ => rfl
  addSession := Request.eq_of_core fun _ => rfl
  createSession := Request.eq_of_core fun _ => rfl
  processChat := Request.eq_of_core fun _ => rfl

/-- The repositories of the store find a record or find none. -/
theorem Store.services_silent : Store.services.Silent where
  session? id := fun _ e => ⟨.ok (e.state.session? id), rfl⟩
  casefile? id := fun _ e => ⟨.ok (e.state.casefile? id), rfl⟩

/-! ## Noted calls -/

/-- A state, and the requests that the services over it have received, in order. -/
structure Noted (σ : Type) where
  state : σ
  calls : List ServiceRequest := []
deriving DecidableEq, Repr

namespace Noted

/-- The same state after the same calls, up to the cores of their requests. -/
structure Same (n n' : Noted σ) : Prop where
  state : n.state = n'.state
  calls : n.calls.map ServiceRequest.core = n'.calls.map ServiceRequest.core

theorem Same.refl (n : Noted σ) : n.Same n := ⟨rfl, rfl⟩

def update (s : σ) (n : Noted σ) : Noted σ := { n with state := s }

/-- A call that is noted and then made. -/
def call (q : ServiceRequest) (c : ServiceCall σ α) : ServiceCall (Noted σ) α := do
  ExceptT.lift (Timed.modify fun n => { n with calls := n.calls ++ [q] })
  c.focus state update

end Noted

/-- The services, with every call noted; look-ups are not. -/
def Services.noted (s : Services σ) : Services (Noted σ) where
  session? id := (s.session? id).focus Noted.state Noted.update
  casefile? id := (s.casefile? id).focus Noted.state Noted.update
  createCasefile q := Noted.call (.createCasefile q) (s.createCasefile q)
  getCasefile q := Noted.call (.getCasefile q) (s.getCasefile q)
  addSession q := Noted.call (.addSession q) (s.addSession q)
  createSession q := Noted.call (.createSession q) (s.createSession q)
  processChat q := Noted.call (.processChat q) (s.processChat q)

namespace Noted

/-- A call on the state does not see what is noted. -/
theorem focus_alike (c : ServiceCall σ α) :
    ServiceCall.Alike Same (c.focus state update) (c.focus state update) := by
  intro d e e' he
  have hinner : ({ e with state := e.state.state } : Environment σ) =
      { e' with state := e'.state.state } := by
    rw [he.state.state, he.clock, he.now, he.unused]
  show (c.run d { e with state := e.state.state }).1 = (c.run d { e' with state := e'.state.state }).1
    ∧ Environment.Alike Same
      ⟨update (c.run d { e with state := e.state.state }).2.state e.state, _, _, _⟩
      ⟨update (c.run d { e' with state := e'.state.state }).2.state e'.state, _, _, _⟩
  rw [hinner]
  exact ⟨rfl, ⟨rfl, he.state.calls⟩, rfl, rfl, rfl⟩

/-- Noted calls of one core are alike if they are the same. -/
theorem call_alike {receive : Request P → ServiceRequest}
    (hcore : ∀ q, (receive q).core = receive q.core) {serve serve' : Request P → ServiceCall σ α}
    (h : ∀ q q', q.core = q'.core → serve q = serve' q') {q q' : Request P} (hq : q.core = q'.core) :
    ServiceCall.Alike Same (call (receive q) (serve q)) (call (receive q') (serve' q')) := by
  rw [h q q' hq]
  refine ServiceCall.Alike.bind (ServiceCall.alike_lift fun d e e' he => ?_) fun _ =>
    focus_alike _
  refine ⟨rfl, ⟨he.state.state, ?_⟩, he.clock, he.now, he.unused⟩
  show (e.state.calls ++ [receive q]).map ServiceRequest.core =
    (e'.state.calls ++ [receive q']).map ServiceRequest.core
  rw [List.map_append, List.map_append, he.state.calls, List.map_singleton, List.map_singleton,
    hcore, hcore, hq]

theorem focus_silent {c : ServiceCall σ α} (hc : c.run.Silent) :
    (c.focus state update).run.Silent := by
  intro d e
  obtain ⟨a, ha⟩ := hc d { e with state := e.state.state }
  refine ⟨a, ?_⟩
  show (match c.run d { e with state := e.state.state } with
    | (a, e₁) => (a, { e₁ with state := update e₁.state e.state })) = _
  rw [ha]
  rfl

end Noted

namespace Services

theorem Agree.noted_alike {s s' : Services σ} (h : s.Agree s') :
    Services.Alike Noted.Same s.noted s'.noted where
  createCasefile _ _ := Noted.call_alike (fun _ => rfl) h.createCasefile
  getCasefile _ _ := Noted.call_alike (fun _ => rfl) h.getCasefile
  addSession _ _ := Noted.call_alike (fun _ => rfl) h.addSession
  createSession _ _ := Noted.call_alike (fun _ => rfl) h.createSession
  processChat _ _ := Noted.call_alike (fun _ => rfl) h.processChat

theorem Silent.noted {s : Services σ} (h : s.Silent) : s.noted.Silent where
  session? id := Noted.focus_silent (h.session? id)
  casefile? id := Noted.focus_silent (h.casefile? id)

end Services

end CasefileHub
