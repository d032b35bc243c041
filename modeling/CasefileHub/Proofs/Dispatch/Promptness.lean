import CasefileHub.Proofs.Dispatch.Silence
import CasefileHub.Proofs.Workflow.Repetition
/-!
# Dispatches at once

With hooks and repositories that are silent, a dispatch does what its operation does: if that answers
the same under every deadline, the dispatch answers with it. Over the store the built-in operations
are steady: they are clean, and for a request of another id they do the same again, up to renaming.
A method is then executed by one dispatch, and an execution that fails has only used up numbers:

    the operation answers at once → the dispatch answers with it               (dispatch_of_prompt)
    route ∈ Route.builtin → route.Steady                                          (builtin_steady)
    the route to a method is steady → its execution is clean                (executeMethod_clean)
-/

namespace CasefileHub

/-! ## Dispatches -/

/-- What a response says of an error of a service. -/
def ServiceError.info (err : ServiceError) : ErrorInfo := ⟨err.kind, err.message⟩

namespace Hub

variable {σ : Type} {h : Hub σ}

theorem outcome_apply {call : ServiceCall σ Json} {e e' : Environment σ}
    {result : Except ServiceError Json} (hrun : ∀ d, call.run d e = (some result, e'))
    (operation : String) (d : Option Nat) :
    h.outcome operation call d e = (some (result.mapError ServiceError.info), e') := by
  unfold outcome
  rw [Timed.bind_apply, Timed.withinOption_apply hrun]
  cases result <;> rfl

/-- A dispatch answers with what its operation comes to, and does nothing else. -/
theorem dispatch_of_prompt (hs : h.services.Silent) (hh : Hook.AllSilent h.hooks) {r : Request Json}
    {call : Services σ → ServiceCall σ Json} (haccept : h.accept r = .ok call)
    {e e' : Environment σ} {result : Except ServiceError Json}
    (hrun : ∀ d, (call h.services).run d e = (some result, e')) (d : Option Nat) :
    ∃ metadata, h.dispatch r d e =
      (some (.ok { Response.ofOutcome r.requestId (result.mapError ServiceError.info) with
        metadata := metadata }), e') := by
  obtain ⟨metadata, hperform⟩ :=
    (perform_of_silent hs hh r call d e).2 _ e' (outcome_apply hrun r.operation d)
  refine ⟨metadata, ?_⟩
  rw [dispatch_of_accept haccept, Timed.map_apply, hperform]

end Hub

/-! ## Operations -/

/-- The payload of an answer. -/
def ServiceAnswer.toJson : ServiceAnswer → Json
  | .casefileCreated a => Payload.toJson a
  | .casefileRead a => Payload.toJson a
  | .sessionAdded a => Payload.toJson a
  | .sessionCreated a => Payload.toJson a
  | .chatReply a => Payload.toJson a

namespace Route

/-- Over the store, the operation is clean, and does the same again for a request of another id. -/
structure Steady (route : Route Store) : Prop where
  clean : ∀ {r call}, route.handler r = .ok call → (call Store.services).run.Clean
  repeats : ∀ (r : Request Json) (id : String),
    (∃ err, route.handler r = .error err ∧ route.handler { r with requestId := id } = .error err) ∨
    ∃ call call', route.handler r = .ok call ∧
      route.handler { r with requestId := id } = .ok call' ∧
      Store.Repeats (call Store.services) (call' Store.services)

/-- The operation of a service answers with the payload of the service's answer. -/
theorem map_toJson_serve {Req Resp : Type} [Payload Resp]
    {perform : Services Store → Request Req → ServiceCall Store Resp}
    {receive : Request Req → ServiceRequest} {wrap : Resp → ServiceAnswer}
    (hserve : ∀ q, Store.services.serve (receive q) = wrap <$> perform Store.services q)
    (hwrap : ∀ a, (wrap a).toJson = Payload.toJson a) (q : Request Req) :
    Payload.toJson <$> perform Store.services q =
      ServiceAnswer.toJson <$> Store.services.serve (receive q) := by
  have hpayload : (fun a => (wrap a).toJson) = (Payload.toJson : Resp → Json) := funext hwrap
  rw [hserve, Functor.map_map, hpayload]

section
variable {Req Resp : Type} [Payload Req] [Payload Resp]
  {perform : Services Store → Request Req → ServiceCall Store Resp}

theorem typed_steady (hclean : ∀ q, (Payload.toJson <$> perform Store.services q).run.Clean)
    (hrepeats : ∀ (q : Request Req) (id : String),
      Store.Repeats (Payload.toJson <$> perform Store.services q)
        (Payload.toJson <$> perform Store.services { q with requestId := id }))
    (name : String) (defaultPolicy : Option String) : (typed name perform defaultPolicy).Steady where
  clean := by
    intro r call hhandler
    obtain ⟨q, rfl⟩ := exists_of_typedHandler perform hhandler
    exact hclean q
  repeats := by
    intro r id
    cases hread : (Payload.decoder : Decoder Req) r.payload with
    | error cause =>
      exact .inl ⟨cause, typedHandler_of_error perform hread,
        typedHandler_of_error (r := { r with requestId := id }) perform hread⟩
    | ok payload =>
      exact .inr ⟨_, _, typedHandler_of_ok perform hread,
        typedHandler_of_ok (r := { r with requestId := id }) perform hread,
        hrepeats (r.withPayload payload) id⟩

/-- The operation of a service. -/
theorem service_steady (receive : Request Req → ServiceRequest) (wrap : Resp → ServiceAnswer)
    (hserve : ∀ q, Store.services.serve (receive q) = wrap <$> perform Store.services q)
    (hwrap : ∀ a, (wrap a).toJson = Payload.toJson a)
    (hid : ∀ (q : Request Req) (id : String),
      receive { q with requestId := id } = (receive q).withId id)
    (name : String) (defaultPolicy : Option String) : (typed name perform defaultPolicy).Steady := by
  have hjson := map_toJson_serve hserve hwrap
  refine typed_steady (fun q => ?_) (fun q id => ?_) name defaultPolicy
  · rw [hjson]
    exact (Store.serve_clean _).map_call _
  · rw [hjson, hjson, hid q id]
    exact (Store.serve_repeats (receive q) id).map _

end

/-- The built-in operations are steady. -/
theorem builtin_steady {route : Route Store} (h : route ∈ builtin) : route.Steady := by
  simp only [builtin, List.mem_cons, List.not_mem_nil, or_false] at h
  rcases h with rfl | rfl | rfl | rfl | rfl | rfl
  · exact service_steady .createCasefile .casefileCreated
      (fun _ => rfl) (fun _ => rfl) (fun _ _ => rfl) _ _
  · exact service_steady .getCasefile .casefileRead
      (fun _ => rfl) (fun _ => rfl) (fun _ _ => rfl) _ _
  · exact service_steady .addSession .sessionAdded
      (fun _ => rfl) (fun _ => rfl) (fun _ _ => rfl) _ _
  · exact service_steady .createSession .sessionCreated
      (fun _ => rfl) (fun _ => rfl) (fun _ _ => rfl) _ _
  · exact service_steady .processChat .chatReply
      (fun _ => rfl) (fun _ => rfl) (fun _ _ => rfl) _ _
  · exact typed_steady (fun q => (Workflow.workflow_clean q).map_call _)
      (fun q id => (Workflow.workflow_repeats q id).map _) _ _

end Route

/-! ## Methods -/

/-- The same refusal, the same failure, or two completed requests. -/
inductive Hub.SameFate : Except HubError Response → Except HubError Response → Prop
  | refused (err : HubError) : SameFate (.error err) (.error err)
  | failed {resp resp' : Response} (hstatus : resp.status = .failed)
      (hstatus' : resp'.status = .failed) (herror : resp'.error = resp.error) : SameFate (.ok resp) (.ok resp')
  | completed {resp resp' : Response} (hstatus : resp.status = .completed)
      (hstatus' : resp'.status = .completed) : SameFate (.ok resp) (.ok resp')

/-- A hub over the store alone, with silent hooks, in which a steady operation is registered. -/
structure Hub.Serves (h : Hub Store) (route : Route Store) : Prop where
  services : h.services = Store.services
  hooks : Hook.AllSilent h.hooks
  registered : h.operations.get? route.operation = some route
  steady : route.Steady

namespace Hub.Serves

variable {h : Hub Store} {method : String} {route : Route Store} {r : Request Json}

/-- A request is refused if it does not read. -/
theorem dispatch_of_error (hx : h.Serves route) (hop : r.operation = route.operation)
    {cause : Json.DecodeError} (hhandler : route.handler r = .error cause) :
    h.dispatch r = pure (.error (.invalid (Request.undecodable cause))) :=
  Hub.dispatch_of_error (accept_of_handler_error (hop ▸ hx.registered) hhandler)

/-- A request that reads is answered with what its operation comes to. -/
theorem dispatch_of_ok (hx : h.Serves route) (hop : r.operation = route.operation)
    {call : Services Store → ServiceCall Store Json} (hhandler : route.handler r = .ok call)
    {e e' : Environment Store} {result : Except ServiceError Json}
    (hrun : ∀ d, (call Store.services).run d e = (some result, e')) (d : Option Nat) :
    ∃ metadata, h.dispatch r d e =
      (some (.ok { Response.ofOutcome r.requestId (result.mapError ServiceError.info) with
        metadata := metadata }), e') := by
  have hsilent : h.services.Silent := hx.services ▸ Store.services_silent
  rw [← hx.services] at hrun
  have haccept := accept_of_handler_ok (hop ▸ hx.registered) hhandler
  exact dispatch_of_prompt hsilent hx.hooks haccept hrun d

/-- What a dispatch reports to the executor of the method. -/
theorem dispatch_clean (hx : h.Serves route) (hop : r.operation = route.operation) :
    ((fun answer => answer.bind (payload route.operation)) <$> h.dispatch r).Clean := by
  cases hhandler : route.handler r with
  | error cause =>
    rw [hx.dispatch_of_error hop hhandler]
    refine ⟨fun e => ⟨_, e, fun d => rfl⟩, fun hrun => ?_⟩
    cases hrun
    exact .refl _
  | ok call =>
    have hclean := hx.steady.clean hhandler
    refine ⟨fun e => ?_, fun {d e err e'} hrun => ?_⟩
    · obtain ⟨result, e', hcall⟩ := hclean.prompt e
      refine ⟨(result.mapError fun err => .execution err.kind err.message), e', fun d => ?_⟩
      obtain ⟨metadata, hdispatch⟩ := hx.dispatch_of_ok hop hhandler hcall d
      rw [Timed.map_apply, hdispatch]
      cases result <;> rfl
    · obtain ⟨result, e₁, hcall⟩ := hclean.prompt e
      obtain ⟨metadata, hdispatch⟩ := hx.dispatch_of_ok hop hhandler hcall d
      rw [Timed.map_apply, hdispatch] at hrun
      cases result with
      | ok payload => cases hrun
      | error err =>
        cases hrun
        exact hclean.wastes (hcall d)

/-- A method that the operation is routed to is executed by a dispatch of the operation. -/
theorem executeMethod_clean (hx : h.Serves route)
    (hrouted : Route.toMethod? h.operations method = some route) (p : Parameters) (caller : Caller) :
    (h.executeMethod method p caller).Clean where
  prompt e := by
    have hclean := hx.dispatch_clean
      (r := requestOf caller (Identifier.request e.unused) route.operation p) rfl
    obtain ⟨result, e', hrun⟩ := hclean.prompt { e with unused := e.unused + 1 }
    exact ⟨result, e', fun d => (executeMethod_of_some hrouted p caller d e).trans (hrun d)⟩
  wastes := by
    intro d e err e' hrun
    have hclean := hx.dispatch_clean
      (r := requestOf caller (Identifier.request e.unused) route.operation p) rfl
    rw [executeMethod_of_some hrouted] at hrun
    exact (Environment.Wastes.numbers e 1).trans (hclean.wastes hrun)

/-- A dispatch in the same store again, for a request of another id, has the same fate, and leaves a
store behind that matches under a renaming of what is new. -/
theorem dispatch_repeats (hx : h.Serves route) (hop : r.operation = route.operation)
    (id : String) {e e' : Environment Store} (he : Store.Reachable e) (he' : Store.Reachable e')
    (hstate : e'.state = e.state) (d d' : Option Nat) :
    ∃ answer answer' e₁ e₁', h.dispatch r d e = (some answer, e₁) ∧
      h.dispatch { r with requestId := id } d' e' = (some answer', e₁') ∧ SameFate answer answer' ∧
      ∃ ρ : Renaming, ρ.Fixes e.state ∧ e₁.state.Matches ρ e₁'.state := by
  have hop' : ({ r with requestId := id } : Request Json).operation = route.operation := hop
  have hkept : ∃ ρ : Renaming, ρ.Fixes e.state ∧ e.state.Matches ρ e'.state := by
    obtain ⟨hfresh, hsound⟩ := he.fresh_and_sound
    have hfix := Renaming.exchange_fixes hfresh hfresh hfresh hfresh
    rw [hstate]
    exact ⟨_, hfix, .refl hsound hfix⟩
  rcases hx.steady.repeats r id with ⟨cause, herr, herr'⟩ | ⟨call, call', hok, hok', hrepeats⟩
  · rw [hx.dispatch_of_error hop herr, hx.dispatch_of_error hop' herr']
    exact ⟨_, _, e, e', rfl, rfl, .refused _, hkept⟩
  · rcases hrepeats e e' he he' hstate with
      ⟨err, e₁, e₁', hrun⟩ | ⟨a, a', e₁, e₁', hrun, hmatch⟩
    · obtain ⟨metadata, hdispatch⟩ := hx.dispatch_of_ok hop hok (fun d => (hrun d).1) d
      obtain ⟨metadata', hdispatch'⟩ := hx.dispatch_of_ok hop' hok' (fun d => (hrun d).2) d'
      refine ⟨_, _, e₁, e₁', hdispatch, hdispatch', .failed rfl rfl rfl, ?_⟩
      rw [((hx.steady.clean hok).wastes (hrun d).1).state,
        ((hx.steady.clean hok').wastes (hrun d').2).state]
      exact hkept
    · obtain ⟨metadata, hdispatch⟩ := hx.dispatch_of_ok hop hok (fun d => (hrun d).1) d
      obtain ⟨metadata', hdispatch'⟩ := hx.dispatch_of_ok hop' hok' (fun d => (hrun d).2) d'
      exact ⟨_, _, e₁, e₁', hdispatch, hdispatch', .completed rfl rfl, hmatch⟩

end Hub.Serves

end CasefileHub
