import CasefileHub.Proofs.Dispatch.Silence
/-!
# What a dispatch does not depend on

Between reading a request and answering it, a dispatch chooses a policy, fetches the context and
runs hooks. With hooks and repositories that leave everything as it is, all this ends up in the
metadata of the response:

    requests of one core, hubs of the same operations, alike services and one deadline →
    the same refusal, or responses that differ in the metadata only           (Hub.Twin.dispatch)
    … and with noted services, the same store after calls of the same cores  (dispatch_indifferent)

This needs operations that read neither the rest of a request nor the repositories, as the built-in
ones. But services receive the whole request, and see the rest of it               (rest_is_seen).
-/

namespace CasefileHub

variable {σ : Type} {R : σ → σ → Prop}

/-! ## Operations -/

namespace Workflow

variable {P Q : Type} {τ : Type} {S : σ → τ → Prop}

/-- A part of a request has nothing but its core. -/
theorem part_alike {r r' : Request P} (hr : r.core = r'.core) (operation : String) (payload : Q) :
    ServiceCall.Alike S (part r operation payload) (part r' operation payload) := by
  unfold part
  refine (ServiceCall.alike_lift Timed.alike_fresh).bind fun n => ?_
  have hpart : r.part (Identifier.request n) operation payload =
      r'.part (Identifier.request n) operation payload :=
    Request.eq_of_core (f := (·.part (Identifier.request n) operation payload)) (fun _ => rfl) r r' hr
  rw [hpart]
  exact ServiceCall.alike_pure _

theorem createCasefileWithSession_alike {s : Services σ} {s' : Services τ}
    (hs : Services.Alike S s s') (r r' : Request CreateCasefileWithSession)
    (hr : r.core = r'.core) :
    ServiceCall.Alike S (createCasefileWithSession s r) (createCasefileWithSession s' r') := by
  have hp : r.payload = r'.payload := Request.eq_of_core (fun _ => rfl) r r' hr
  unfold createCasefileWithSession
  rw [hp]
  refine (part_alike hr _ _).bind fun create => ?_
  refine (hs.createCasefile create create rfl).bind fun created => ?_
  split
  · exact ServiceCall.alike_pure _
  · refine (part_alike hr _ _).bind fun start => ?_
    refine (hs.createSession _ _ rfl).bind fun started => ?_
    refine (part_alike hr _ _).bind fun link => ?_
    exact (hs.addSession link link rfl).bind fun _ => ServiceCall.alike_pure _

end Workflow

namespace Route

/-- Requests of one core are refused alike, or get calls that are alike over services that are. So
the operation reads neither the rest of a request nor the repositories. -/
def Indifferent (R : σ → σ → Prop) (route : Route σ) : Prop :=
  ∀ r r', r.core = r'.core →
    (∃ err, route.handler r = .error err ∧ route.handler r' = .error err) ∨
    ∃ call call', route.handler r = .ok call ∧ route.handler r' = .ok call' ∧
      ∀ s s', Services.Alike R s s' → (call s).Alike R (call' s')

theorem typed_indifferent {Req Resp : Type} [Payload Req] [Payload Resp]
    {perform : Services σ → Request Req → ServiceCall σ Resp}
    (h : ∀ s s', Services.Alike R s s' →
      ∀ q q', q.core = q'.core → (perform s q).Alike R (perform s' q'))
    (name : String) (defaultPolicy : Option String) :
    (Route.typed name perform defaultPolicy).Indifferent R := by
  intro r r' hr
  have hp : r.payload = r'.payload := Request.eq_of_core (fun _ => rfl) r r' hr
  cases hread : (Payload.decoder : Decoder Req) r'.payload with
  | error cause =>
    exact .inl ⟨cause, typedHandler_of_error perform (hp ▸ hread),
      typedHandler_of_error perform hread⟩
  | ok payload =>
    refine .inr ⟨_, _, typedHandler_of_ok perform (hp ▸ hread), typedHandler_of_ok perform hread,
      fun s s' hs => ?_⟩
    have hq : (r.withPayload payload).core = (r'.withPayload payload).core :=
      congrArg (Request.withPayload · payload) hr
    exact (h s s' hs _ _ hq).map Payload.toJson

/-- The built-in operations read no more than the core of a request. -/
theorem builtin_indifferent {route : Route σ} (h : route ∈ builtin) : route.Indifferent R := by
  simp only [builtin, List.mem_cons, List.not_mem_nil, or_false] at h
  rcases h with rfl | rfl | rfl | rfl | rfl | rfl
  · exact typed_indifferent (fun _ _ hs => hs.createCasefile) _ _
  · exact typed_indifferent (fun _ _ hs => hs.getCasefile) _ _
  · exact typed_indifferent (fun _ _ hs => hs.addSession) _ _
  · exact typed_indifferent (fun _ _ hs => hs.createSession) _ _
  · exact typed_indifferent (fun _ _ hs => hs.processChat) _ _
  · exact typed_indifferent (fun _ _ hs => Workflow.createCasefileWithSession_alike hs) _ _

end Route

namespace Hub

variable {h h' : Hub σ} {r r' : Request Json} {d : Option Nat} {e e' : Environment σ}

/-! ## Hubs side by side -/

theorem outcome_alike (htime : h.config.operationTimeout = h'.config.operationTimeout)
    {call call' : ServiceCall σ Json} (hcall : call.Alike R call') (operation : String) :
    Timed.Alike R (h.outcome operation call) (h'.outcome operation call') := by
  have hmillis : h.config.timeoutMillis = h'.config.timeoutMillis :=
    congrArg (Option.map (· * 1000)) htime
  unfold outcome
  rw [htime, hmillis]
  refine (Timed.Alike.withinOption hcall _).bind fun answer => ?_
  rcases answer with _ | _ | _ <;> exact Timed.alike_pure _

/-- Hubs with the same operations, which are indifferent, with services that are alike and with the
same time for an operation. Their policies, hooks, repositories and other settings may differ. -/
structure Twin (R : σ → σ → Prop) (h h' : Hub σ) : Prop where
  operations : h.operations = h'.operations
  indifferent : ∀ name route, h.operations.get? name = some route → route.Indifferent R
  operationTimeout : h.config.operationTimeout = h'.config.operationTimeout
  services : Services.Alike R h.services h'.services
  silent : h.services.Silent
  silent' : h'.services.Silent
  hooks : Hook.AllSilent h.hooks
  hooks' : Hook.AllSilent h'.hooks

/-- The same refusal, or responses that differ in the metadata only. -/
inductive SameAnswer : Except HubError Response → Except HubError Response → Prop
  | refused (err : HubError) : SameAnswer (.error err) (.error err)
  | answered (resp : Response) (metadata : Table Json) :
      SameAnswer (.ok resp) (.ok { resp with metadata := metadata })

/-- Two runs end in related environments, both without an answer or with the same one. -/
def SameRun (R : σ → σ → Prop)
    (run run' : Option (Except HubError Response) × Environment σ) : Prop :=
  run.2.Alike R run'.2 ∧
    (run.1 = none ∧ run'.1 = none ∨
      ∃ a a', SameAnswer a a' ∧ run.1 = some a ∧ run'.1 = some a')

theorem Twin.perform (ht : Twin R h h') (hr : r.core = r'.core)
    {call call' : Services σ → ServiceCall σ Json}
    (hcall : ∀ s s', Services.Alike R s s' → (call s).Alike R (call' s')) (d : Option Nat)
    (he : e.Alike R e') :
    SameRun R ((Except.ok <$> h.perform r call) d e) ((Except.ok <$> h'.perform r' call') d e') := by
  have hoperation : r.operation = r'.operation := Request.eq_of_core (fun _ => rfl) r r' hr
  have hid : r.requestId = r'.requestId := Request.eq_of_core (fun _ => rfl) r r' hr
  have hp := perform_of_silent ht.silent ht.hooks r call d e
  have hp' := perform_of_silent ht.silent' ht.hooks' r' call' d e'
  have houtcome := outcome_alike ht.operationTimeout (hcall _ _ ht.services) r.operation
  rw [Timed.map_apply, Timed.map_apply]
  obtain ⟨e₁, e₁', henv, ⟨hn, hn'⟩ | ⟨result, hs, hs'⟩⟩ := houtcome.cases d he
  · rw [hp.1 e₁ hn, hp'.1 e₁' (hoperation ▸ hn')]
    exact ⟨henv, .inl ⟨rfl, rfl⟩⟩
  · obtain ⟨metadata, hm⟩ := hp.2 result e₁ hs
    obtain ⟨metadata', hm'⟩ := hp'.2 result e₁' (hoperation ▸ hs')
    rw [hm, hm', ← hid]
    exact ⟨henv, .inr ⟨_, _, .answered _ metadata', rfl, rfl⟩⟩

/-- Twin hubs answer requests of one core alike. -/
theorem Twin.dispatch (ht : Twin R h h') (hr : r.core = r'.core) (d : Option Nat)
    (he : e.Alike R e') : SameRun R (h.dispatch r d e) (h'.dispatch r' d e') := by
  have hoperation : r.operation = r'.operation := Request.eq_of_core (fun _ => rfl) r r' hr
  cases hroute : h.operations.get? r.operation with
  | none =>
    have hroute' : h'.operations.get? r'.operation = none := by
      rw [← ht.operations, ← hoperation, hroute]
    rw [dispatch_of_error (accept_of_absent hroute), dispatch_of_error (accept_of_absent hroute'),
      hoperation]
    exact ⟨he, .inr ⟨_, _, .refused _, rfl, rfl⟩⟩
  | some route =>
    have hroute' : h'.operations.get? r'.operation = some route := by
      rw [← ht.operations, ← hoperation, hroute]
    rcases ht.indifferent _ route hroute r r' hr with
      ⟨err, herr, herr'⟩ | ⟨call, call', hok, hok', hcall⟩
    · rw [dispatch_of_error (accept_of_handler_error hroute herr),
        dispatch_of_error (accept_of_handler_error hroute' herr')]
      exact ⟨he, .inr ⟨_, _, .refused _, rfl, rfl⟩⟩
    · rw [dispatch_of_accept (accept_of_handler_ok hroute hok),
        dispatch_of_accept (accept_of_handler_ok hroute' hok')]
      exact ht.perform hr hcall d he

/-! ## Noted services -/

/-- **Context, hooks, hints, directives and policies do not interfere.** Two hubs with the same
operations and deadline, over the same services beside any repositories, get requests of one core in
environments that are the same but for the rest of earlier requests. Where the operations read
neither the rest of a request nor the repositories, and the services not the rest, both hubs answer
alike: with the same refusal, with responses that differ in the metadata only, or not at all. They
leave the same state, time and unused numbers, after calls that are the same but for the rest of the
requests that were handed on. -/
theorem dispatch_indifferent {s s' : Services σ} {h h' : Hub (Noted σ)}
    (hs : h.services = s.noted) (hs' : h'.services = s'.noted) (hagree : s.Agree s')
    (hsilent : s.Silent) (hsilent' : s'.Silent)
    (hhooks : Hook.AllSilent h.hooks) (hhooks' : Hook.AllSilent h'.hooks)
    (hoperations : h.operations = h'.operations)
    (hindifferent : ∀ name route, h.operations.get? name = some route →
      route.Indifferent Noted.Same)
    (htime : h.config.operationTimeout = h'.config.operationTimeout)
    {r r' : Request Json} (hr : r.core = r'.core) (d : Option Nat)
    {e e' : Environment (Noted σ)} (he : e.Alike Noted.Same e') :
    SameRun Noted.Same (h.dispatch r d e) (h'.dispatch r' d e') := by
  have ht : Twin Noted.Same h h' := {
    operations := hoperations
    indifferent := hindifferent
    operationTimeout := htime
    services := by rw [hs, hs']; exact hagree.noted_alike
    silent := hs ▸ hsilent.noted
    silent' := hs' ▸ hsilent'.noted
    hooks := hhooks
    hooks' := hhooks' }
  exact ht.dispatch hr d he

/-- An empty store, no calls and the first number. -/
def blank : Environment (Noted Store) := ⟨⟨{}, []⟩, 0, ⟨0⟩, 0⟩

/-- What a hub answers to a request. -/
def response? (h : Hub (Noted Store)) (r : Request Json) : Option Response :=
  (h.dispatch r none blank).1.bind Except.toOption

/-- A hub without policies and hooks. -/
def bare : Hub (Noted Store) :=
  { standard .builtin Store.services.noted {} with policies := ⟨.empty⟩, hooks := .empty }

/-- The services of the store, whose sessions cannot be looked up. -/
def sessionless : Services Store :=
  { Store.services with session? := fun _ => throw (.unavailable "down") }

/-- The built-in policies and hooks, where requests observe their session. -/
def observing : Hub (Noted Store) :=
  standard .builtin sessionless.noted
    { defaultPolicy := PolicyPattern.sessionObserverName, warnOnUnknownHooks := false }

/-- A request to create a casefile in a session. -/
def plain : Request Json :=
  { creating (.obj [("title", .str "t")]) with sessionId := some "s" }

/-- The same with requirements, hooks and a hint. -/
def furnished : Request Json :=
  { plain with
    contextRequirements := ["casefile"]
    hooks := ["audit", "trace"]
    policyHints := { pattern := some "strict" } }

/-- The two hubs create the same casefile. -/
theorem dispatch_plain_furnished :
    SameRun Noted.Same (bare.dispatch plain none blank) (observing.dispatch furnished none blank) ∧
    (bare.dispatch plain none blank).2.state.state.casefiles.size = 1 ∧
    (bare.dispatch plain none blank).2.state.calls.length = 1 ∧
    (response? bare plain).map Response.metadata ≠
      (response? observing furnished).map Response.metadata := by
  have hsilent : sessionless.Silent := {
    session? := fun _ _ _ => ⟨.error _, rfl⟩
    casefile? := Store.services_silent.casefile? }
  have hindifferent (name : String) (route : Route (Noted Store))
      (hroute : bare.operations.get? name = some route) : route.Indifferent Noted.Same :=
    Route.builtin_indifferent (Route.mem_builtin_of_get? hroute)
  have hs : bare.services = Store.services.noted := rfl
  have hs' : observing.services = sessionless.noted := rfl
  have hagree : Store.services.Agree sessionless := Store.services_agree _ _
  have hhooks : Hook.AllSilent bare.hooks := Hook.empty_silent
  have hhooks' : Hook.AllSilent observing.hooks := Hook.builtin_silent
  have hoperations : bare.operations = observing.operations := rfl
  have htime : bare.config.operationTimeout = observing.config.operationTimeout := rfl
  have hr : plain.core = furnished.core := rfl
  refine ⟨?_, by decide +kernel, by decide +kernel, by decide +kernel⟩
  exact dispatch_indifferent hs hs' hagree Store.services_silent hsilent hhooks hhooks' hoperations
    hindifferent htime hr none (.refl Noted.Same.refl blank)

/-! ## What sees the rest of a request -/

/-- A request to read a casefile that is not there. -/
def missing (hooks : List String) : Request Json where
  requestId := "r"
  operation := OperationName.getCasefile
  payload := .obj [("casefile_id", .str "cf_missing")]
  hooks := hooks

/-- The services of the store, where a request to read a casefile may have no hooks. -/
def hookless : Services Store :=
  { Store.services with
    getCasefile := fun q =>
      if q.hooks.isEmpty then Store.services.getCasefile q else throw (.invalid "hooks") }

/-- An operation that looks a session up and answers with the hooks of its request. -/
def reflecting : Route (Noted Store) :=
  .typed OperationName.getCasefile fun services (r : Request Json) => do
    let _ ← services.session? "s"
    return Json.strings r.hooks

/-- A hub with one operation. -/
def mirror (services : Services Store) : Hub (Noted Store) :=
  { standard .builtin services.noted {} with operations := .replace .empty reflecting }

/-- With other hooks, the built-in operations hand another request to their service, and a service
that reads them, or an operation that does, answers otherwise; so does an operation that asks a
repository which behaves otherwise. -/
theorem rest_is_seen :
    (missing []).core = (missing ["trace"]).core ∧
    ((standard .builtin Store.services.noted {}).dispatch (missing []) none blank).2.state.calls ≠
      ((standard .builtin Store.services.noted {}).dispatch (missing ["trace"]) none
        blank).2.state.calls ∧
    (response? (standard .builtin hookless.noted {}) (missing [])).map Response.error ≠
      (response? (standard .builtin hookless.noted {}) (missing ["trace"])).map Response.error ∧
    (response? (mirror Store.services) (missing [])).map Response.payload ≠
      (response? (mirror Store.services) (missing ["trace"])).map Response.payload ∧
    (response? (mirror Store.services) (missing [])).map Response.status ≠
      (response? (mirror sessionless) (missing [])).map Response.status := by
  refine ⟨rfl, ?_, ?_, ?_, ?_⟩ <;> decide +kernel

end Hub

end CasefileHub
