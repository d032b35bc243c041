import CasefileHub.Hub
import CasefileHub.Proofs.Dispatch.Route
import CasefileHub.Proofs.Json.Decode
import CasefileHub.Proofs.Timed
/-!
# What a dispatch answers

A request is refused for its operation or for its payload, and nothing is called then: the dispatch
is the pure computation of the error, whatever the services and the hooks are. Every other request
is performed, and only a repository or an operation that never answers can keep it from a response:

    h.perform r call d e = (some resp, e') → resp settles the run of the call   (settles_of_perform)
    h.perform r call d e = (none, e') → something that is waited for stalls     (stalls_of_perform)
    refused for the operation ↔ not in the table, refused for the payload ↔ it does not read,
    and else a response                                                         (dispatch_trichotomy)
-/

namespace CasefileHub

variable {σ : Type}

/-! ## Responses -/

/-- An annotation changes nothing but the metadata. -/
theorem Response.annotate_eq (r : Response) (key : String) (value : Json) :
    r.annotate key value = { r with metadata := (r.annotate key value).metadata } := by
  unfold annotate
  split <;> rfl

namespace DispatchContext

/-- The response with everything that the context holds for its metadata. -/
def annotated (c : DispatchContext) (r : Response) : Response := c.attachSkipped (c.attach r)

theorem attach_eq (c : DispatchContext) (r : Response) :
    c.attach r = { r with metadata := (c.attach r).metadata } := by
  unfold attach
  split
  · exact Response.annotate_eq r _ _
  · rw [Response.annotate_eq (Response.annotate r _ _), Response.annotate_eq r]

theorem annotated_eq (c : DispatchContext) (r : Response) :
    c.annotated r = { r with metadata := (c.annotated r).metadata } := by
  unfold annotated attachSkipped
  split
  · exact attach_eq c r
  · rw [Response.annotate_eq (c.attach r), attach_eq c r]

/-! ## Context -/

/-- A repository does not answer under a deadline. -/
def Stalls (services : Services σ) (d : Option Nat) : Prop :=
  (∃ id e, ((services.session? id).run d e).1 = none) ∨
    ∃ id e, ((services.casefile? id).run d e).1 = none

theorem stalled_of_found {α : Type} {call : ServiceCall σ (Option α)} {d : Option Nat}
    {e e' : Environment σ} (h : found call d e = (none, e')) : (call.run d e).1 = none := by
  rcases Timed.exists_of_bind_none h with hcall | ⟨r, e₁, -, hr⟩
  · rw [hcall]
  · cases r <;> cases hr

theorem stalled_of_fetch {α : Type} {repository : String → ServiceCall σ (Option α)}
    {id : Option String} {d : Option Nat} {e e' : Environment σ}
    (h : fetch repository id d e = (none, e')) : ∃ id e₁, ((repository id).run d e₁).1 = none := by
  cases id with
  | none => cases h
  | some id => exact ⟨id, e, stalled_of_found h⟩

theorem stalls_of_prepare {services : Services σ} {r : Request Json} {policy : String}
    {defaults : PolicyDefaults} {d : Option Nat} {e e' : Environment σ}
    (h : prepare services r policy defaults d e = (none, e')) : Stalls services d := by
  rcases Timed.exists_of_bind_none h with hsession | ⟨session, e₁, -, h⟩
  · exact .inl (stalled_of_fetch hsession)
  · rcases Timed.exists_of_bind_none h with hcasefile | ⟨casefile, e₂, -, h⟩
    · exact .inr (stalled_of_fetch hcasefile)
    · cases h

end DispatchContext

namespace Hub

variable {h : Hub σ} {r : Request Json} {call : ServiceCall σ Json} {d : Option Nat}
  {e e' : Environment σ}

/-! ## Performed requests -/

/-- The response tells how the call ended that was made in an environment: it succeeded, it failed,
or it was given up at the end of its time. -/
inductive Settles (h : Hub σ) (r : Request Json) (call : ServiceCall σ Json) (e : Environment σ) :
    Response → Prop
  | completed {d : Option Nat} {payload : Json} {e' : Environment σ} {metadata : Table Json} :
      call.run d e = (some (.ok payload), e') →
      Settles h r call e ⟨r.requestId, .completed, payload, none, metadata⟩
  | failed {d : Option Nat} {err : ServiceError} {e' : Environment σ} {metadata : Table Json} :
      call.run d e = (some (.error err), e') →
      Settles h r call e ⟨r.requestId, .failed, .null, some ⟨err.kind, err.message⟩, metadata⟩
  | timedOut {d : Option Nat} {seconds : Nat} {e' : Environment σ} {metadata : Table Json} :
      h.config.operationTimeout = some seconds → call.run d e = (none, e') →
      Settles h r call e ⟨r.requestId, .failed, .null, some ⟨"timeout", r.operation ++ " exceeded " ++
        Nat.repr (seconds * 1000) ++ " ms"⟩, metadata⟩

/-- Under a deadline, or none, something that a dispatch waits for does not answer: a repository, or
the call of an operation whose own time is not limited. -/
def Stalls (h : Hub σ) (call : ServiceCall σ Json) (d : Option Nat) : Prop :=
  DispatchContext.Stalls h.services d ∨
    (d = none → h.config.operationTimeout = none) ∧ ∃ e, (call.run d e).1 = none

/-- The outcome of a call, as a response with any metadata. -/
theorem settles_of_outcome {result : Except ErrorInfo Json}
    (hrun : h.outcome r.operation call d e = (some result, e')) (metadata : Table Json) :
    h.Settles r call e { Response.ofOutcome r.requestId result with metadata := metadata } := by
  obtain ⟨answer, e₁, hlimit, hrun⟩ := Timed.exists_of_bind_some hrun
  cases answer with
  | none =>
    cases hrun
    obtain ⟨inner, e₂, hcall⟩ := Timed.exists_of_withinOption_none hlimit
    obtain ⟨seconds, hseconds⟩ : ∃ seconds, h.config.operationTimeout = some seconds := by
      refine Option.ne_none_iff_exists'.1 fun hnone => ?_
      rw [hnone] at hlimit
      obtain ⟨a, e₃, -, heq⟩ := Timed.exists_of_bind_some hlimit
      cases heq
    have hmillis : h.config.timeoutMillis.getD 0 = seconds * 1000 := by
      rw [HubConfig.timeoutMillis, hseconds]
      rfl
    rw [hmillis]
    exact .timedOut hseconds hcall
  | some answer =>
    obtain ⟨inner, e₂, hcall⟩ := Timed.exists_of_withinOption_some hlimit
    cases answer with
    | ok payload =>
      cases hrun
      exact .completed hcall
    | error err =>
      cases hrun
      exact .failed hcall

theorem stalls_of_outcome {operation : String}
    (hrun : h.outcome operation call d e = (none, e')) : h.Stalls call d := by
  rcases Timed.exists_of_bind_none hrun with hlimit | ⟨answer, e₁, -, hrun⟩
  · obtain ⟨hcall, htime⟩ := Timed.eq_none_of_withinOption hlimit
    exact .inr ⟨htime, e, hcall⟩
  · rcases answer with _ | _ | _ <;> cases hrun

theorem stalls_of_begin (hrun : h.begin r d e = (none, e')) :
    DispatchContext.Stalls h.services d := by
  rcases Timed.exists_of_bind_none hrun with hprepare | ⟨c, e₁, -, hrun⟩
  · exact DispatchContext.stalls_of_prepare hprepare
  · cases hrun

/-- The hooks of the second stage answer, and only add to the metadata. -/
theorem finish_apply (h : Hub σ) (r : Request Json) (c : DispatchContext)
    (result : Except ErrorInfo Json) (d : Option Nat) (e : Environment σ) :
    h.finish r c result d e =
      (some ((Hook.runAll h.hooks .post (some (.ofOutcome r.requestId result)) c.hooks c e).1.annotated
        (.ofOutcome r.requestId result)),
        (Hook.runAll h.hooks .post (some (.ofOutcome r.requestId result)) c.hooks c e).2) := rfl

/-- The stages of a request that is answered. -/
theorem stages_of_perform {call : Services σ → ServiceCall σ Json} {resp : Response}
    (hrun : h.perform r call d e = (some resp, e')) :
    ∃ c e₁ result e₂, h.begin r d e = (some c, e₁) ∧
      h.outcome r.operation (call h.services) d e₁ = (some result, e₂) ∧
      h.finish r c result d e₂ = (some resp, e') := by
  obtain ⟨c, e₁, hbegin, hrun⟩ := Timed.exists_of_bind_some hrun
  obtain ⟨result, e₂, houtcome, hfinish⟩ := Timed.exists_of_bind_some hrun
  exact ⟨c, e₁, result, e₂, hbegin, houtcome, hfinish⟩

/-- The response settles the call, which is made once the context and the first hooks are done. -/
theorem settles_of_perform {call : Services σ → ServiceCall σ Json} {resp : Response}
    (hrun : h.perform r call d e = (some resp, e')) :
    ∃ c e₁, h.begin r d e = (some c, e₁) ∧ h.Settles r (call h.services) e₁ resp := by
  obtain ⟨c, e₁, result, e₂, hbegin, houtcome, hfinish⟩ := stages_of_perform hrun
  refine ⟨c, e₁, hbegin, ?_⟩
  rw [finish_apply] at hfinish
  cases hfinish
  rw [DispatchContext.annotated_eq]
  exact settles_of_outcome houtcome _

theorem stalls_of_perform {call : Services σ → ServiceCall σ Json}
    (hrun : h.perform r call d e = (none, e')) : h.Stalls (call h.services) d := by
  rcases Timed.exists_of_bind_none hrun with hbegin | ⟨c, e₁, -, hrun⟩
  · exact .inl (stalls_of_begin hbegin)
  · rcases Timed.exists_of_bind_none hrun with houtcome | ⟨result, e₂, -, hfinish⟩
    · exact stalls_of_outcome houtcome
    · cases hfinish

/-! ## Dispatches -/

theorem accept_of_absent (hroute : h.operations.get? r.operation = none) :
    h.accept r = .error (.unsupported r.operation) := by
  unfold accept
  rw [hroute]

theorem accept_of_handler_error {route : Route σ}
    (hroute : h.operations.get? r.operation = some route) {cause : Json.DecodeError}
    (hhandler : route.handler r = .error cause) :
    h.accept r = .error (.invalid (Request.undecodable cause)) := by
  unfold accept
  rw [hroute]
  simp only [hhandler]

theorem accept_of_handler_ok {route : Route σ}
    (hroute : h.operations.get? r.operation = some route)
    {call : Services σ → ServiceCall σ Json} (hhandler : route.handler r = .ok call) :
    h.accept r = .ok call := by
  unfold accept
  rw [hroute]
  simp only [hhandler]

/-- Only the handler of a route accepts a request. -/
theorem exists_route_of_accept {call : Services σ → ServiceCall σ Json}
    (haccept : h.accept r = .ok call) :
    ∃ route, h.operations.get? r.operation = some route ∧ route.handler r = .ok call := by
  cases hroute : h.operations.get? r.operation with
  | none =>
    rw [accept_of_absent hroute] at haccept
    cases haccept
  | some route =>
    refine ⟨route, rfl, ?_⟩
    cases hhandler : route.handler r with
    | error cause =>
      rw [accept_of_handler_error hroute hhandler] at haccept
      cases haccept
    | ok call' =>
      rw [accept_of_handler_ok hroute hhandler] at haccept
      cases haccept
      rfl

/-- A refusal is the answer, and nothing is done. -/
theorem dispatch_of_error {err : HubError} (haccept : h.accept r = .error err) :
    h.dispatch r = pure (.error err) := by
  unfold dispatch
  rw [haccept]

theorem dispatch_of_accept {call : Services σ → ServiceCall σ Json}
    (haccept : h.accept r = .ok call) : h.dispatch r = .ok <$> h.perform r call := by
  unfold dispatch
  rw [haccept]

/-- A dispatch that performs its request answers with a response, unless something stalls. -/
theorem exists_response_of_accept {call : Services σ → ServiceCall σ Json}
    (haccept : h.accept r = .ok call) (d : Option Nat) (e : Environment σ) :
    (∃ resp c e₁ e', h.dispatch r d e = (some (.ok resp), e') ∧ h.begin r d e = (some c, e₁) ∧
      h.Settles r (call h.services) e₁ resp) ∨
    (h.dispatch r d e).1 = none ∧ h.Stalls (call h.services) d := by
  rw [dispatch_of_accept haccept, Timed.map_apply]
  rcases hrun : h.perform r call d e with ⟨_ | resp, e'⟩
  · exact .inr ⟨rfl, stalls_of_perform hrun⟩
  · obtain ⟨c, e₁, hbegin, hsettles⟩ := settles_of_perform hrun
    exact .inl ⟨resp, c, e₁, e', rfl, hbegin, hsettles⟩

theorem not_error_of_accept {call : Services σ → ServiceCall σ Json} (haccept : h.accept r = .ok call)
    (d : Option Nat) (e : Environment σ) (err : HubError) :
    (h.dispatch r d e).1 ≠ some (.error err) := by
  intro herr
  rcases exists_response_of_accept haccept d e with ⟨resp, c, e₁, e', hrun, -⟩ | ⟨hnone, -⟩
  · rw [hrun] at herr
    cases herr
  · rw [hnone] at herr
    cases herr

end Hub

/-! ## Methods -/

theorem ServiceError.kind_ne_protocol (err : ServiceError) : err.kind ≠ "protocol_error" := by
  cases err <;> simp [kind]

namespace Hub

variable {h : Hub σ} {r : Request Json} {route : Route σ} {m : String} {d : Option Nat}
  {e e' : Environment σ}

theorem executeMethod_of_none (hroute : Route.toMethod? h.operations m = none) (p : Parameters)
    (caller : Caller) : h.executeMethod m p caller = pure (.error (.unsupported m)) := by
  unfold executeMethod
  rw [hroute]

/-- A method is executed by a dispatch of the operation that is routed to it. -/
theorem executeMethod_of_some (hroute : Route.toMethod? h.operations m = some route)
    (p : Parameters) (caller : Caller) (d : Option Nat) (e : Environment σ) :
    h.executeMethod m p caller d e =
      ((fun answer => answer.bind (payload route.operation)) <$>
        h.dispatch (requestOf caller (Identifier.request e.unused) route.operation p))
        d { e with unused := e.unused + 1 } := by
  unfold executeMethod
  rw [hroute]
  rfl

/-- An execution of a method reports what the dispatch has answered. -/
theorem exists_dispatch_of_executeMethod (hroute : Route.toMethod? h.operations m = some route)
    {p : Parameters} {caller : Caller} {result : Except HubError Json}
    (hrun : h.executeMethod m p caller d e = (some result, e')) :
    ∃ answer, h.dispatch (requestOf caller (Identifier.request e.unused) route.operation p) d
        { e with unused := e.unused + 1 } = (some answer, e') ∧
      result = answer.bind (payload route.operation) := by
  rw [executeMethod_of_some hroute] at hrun
  exact Timed.exists_of_map_some hrun

/-- A call that failed is no protocol error. -/
theorem Settles.kind_ne_protocol {call : ServiceCall σ Json} {resp : Response}
    (hs : h.Settles r call e resp) {operation : String} {err : HubError}
    (herr : payload operation resp = .error err) : err.kind ≠ "protocol_error" := by
  cases hs with
  | completed hcall => cases herr
  | @failed _ cause _ _ hcall =>
    cases herr
    exact cause.kind_ne_protocol
  | timedOut htime hcall =>
    cases herr
    exact (by decide : "timeout" ≠ "protocol_error")

/-- Nor is what a dispatch of an operation in the table answers. -/
theorem kind_ne_protocol_of_dispatch (hroute : h.operations.get? r.operation = some route)
    {answer : Except HubError Response} (hrun : h.dispatch r d e = (some answer, e'))
    {operation : String} {err : HubError} (herr : answer.bind (payload operation) = .error err) :
    err.kind ≠ "protocol_error" := by
  cases hhandler : route.handler r with
  | error cause =>
    rw [dispatch_of_error (accept_of_handler_error hroute hhandler)] at hrun
    cases hrun
    cases herr
    exact (by decide : "validation_error" ≠ "protocol_error")
  | ok call =>
    rcases exists_response_of_accept (accept_of_handler_ok hroute hhandler) d e with
      ⟨resp, c, e₁, e₂, hresp, -, hsettles⟩ | ⟨hnone, -⟩
    · rw [hrun] at hresp
      cases hresp
      exact hsettles.kind_ne_protocol herr
    · rw [hrun] at hnone
      cases hnone

end Hub

/-! ## Typed handlers -/

/-- A handler that reads the payload of a request, for which it calls nothing, and then stands ready
to perform the typed request. -/
structure TypedHandler (σ : Type) where
  Model : Type
  [payload : Payload Model]
  perform : Services σ → Request Model → ServiceCall σ Json

attribute [instance] TypedHandler.payload

namespace TypedHandler

def handle (t : TypedHandler σ) (r : Request Json) :
    Except Json.DecodeError (Services σ → ServiceCall σ Json) :=
  (fun typed services => t.perform services typed) <$> r.typed t.Model

/-- The model has a reading of the request's payload. -/
def Reads (t : TypedHandler σ) (r : Request Json) : Prop :=
  (Payload.decoder : Decoder t.Model).Takes r.payload

/-- The handler of a service, whose answer is written. -/
def ofService {Req Resp : Type} [Payload Req] [Payload Resp]
    (perform : Services σ → Request Req → ServiceCall σ Resp) : TypedHandler σ where
  Model := Req
  perform services typed := Payload.toJson <$> perform services typed

theorem typedHandler_eq {Req Resp : Type} [Payload Req] [Payload Resp]
    (perform : Services σ → Request Req → ServiceCall σ Resp) :
    Route.typedHandler perform = (ofService perform).handle := by
  funext r
  show _ = Except.map _ (r.typed Req)
  unfold Route.typedHandler
  cases r.typed Req <;> rfl

end TypedHandler

namespace Hub

variable {h : Hub σ} {r : Request Json} {t : TypedHandler σ} {route : Route σ}

theorem accept_of_unread (hroute : h.operations.get? r.operation = some route)
    (ht : route.handler = t.handle) {cause : Json.DecodeError}
    (hread : (Payload.decoder : Decoder t.Model) r.payload = .error cause) :
    h.accept r = .error (.invalid [⟨"payload", .undecodable cause⟩]) := by
  refine accept_of_handler_error hroute ?_
  simp only [ht, TypedHandler.handle, Request.typed, hread]
  rfl

theorem accept_of_read (hroute : h.operations.get? r.operation = some route)
    (ht : route.handler = t.handle) {payload : t.Model}
    (hread : Payload.decoder r.payload = .ok payload) :
    h.accept r = .ok fun services => t.perform services (r.withPayload payload) := by
  refine accept_of_handler_ok hroute ?_
  simp only [ht, TypedHandler.handle, Request.typed, hread]
  rfl

/-- A refusal does not depend on what is behind the table of operations. -/
theorem dispatch_of_refusal {err : HubError} (haccept : h.accept r = .error err)
    (services : Services σ) (hooks : Registry (Hook σ)) :
    ({ h with services := services, hooks := hooks } : Hub σ).dispatch r = pure (.error err) :=
  dispatch_of_error (h := { h with services := services, hooks := hooks }) haccept

/-- **A dispatch is refused for its operation, refused for its payload, or answered.** The first
exactly if the operation is not in the table, the second exactly if its model does not read the
payload; both whatever the services and hooks are, none of which is called. Every other request has
a response that tells how its call ended, unless something never answers. -/
theorem dispatch_trichotomy
    (ht : ∀ route, h.operations.get? r.operation = some route → route.handler = t.handle)
    (d : Option Nat) (e : Environment σ) :
    ((h.dispatch r d e).1 = some (.error (.unsupported r.operation)) ↔
      h.operations.contains r.operation = false) ∧
    ((∃ cause, (h.dispatch r d e).1 =
        some (.error (.invalid [⟨"payload", .undecodable cause⟩]))) ↔
      h.operations.contains r.operation = true ∧ ¬ t.Reads r) ∧
    (∀ err, (h.dispatch r d e).1 = some (.error err) →
      (h.operations.contains r.operation = false ∨ ¬ t.Reads r) ∧
      ∀ services hooks,
        ({ h with services := services, hooks := hooks } : Hub σ).dispatch r = pure (.error err)) ∧
    (h.operations.contains r.operation = true →
      ∀ payload, Payload.decoder r.payload = .ok payload →
        (∃ resp c e₁ e', h.dispatch r d e = (some (.ok resp), e') ∧
          h.begin r d e = (some c, e₁) ∧
          h.Settles r (t.perform h.services (r.withPayload payload)) e₁ resp) ∨
        (h.dispatch r d e).1 = none ∧
          h.Stalls (t.perform h.services (r.withPayload payload)) d) := by
  unfold Registry.contains TypedHandler.Reads Decoder.Takes
  cases hroute : h.operations.get? r.operation with
  | none =>
    have haccept := accept_of_absent hroute
    rw [dispatch_of_error haccept]
    refine ⟨iff_of_true rfl rfl, iff_of_false ?_ ?_, ?_, ?_⟩
    · rintro ⟨cause, heq⟩
      cases heq
    · rintro ⟨hsome, -⟩
      cases hsome
    · intro err heq
      cases heq
      exact ⟨.inl rfl, dispatch_of_refusal haccept⟩
    · intro hsome
      cases hsome
  | some route =>
    cases hread : (Payload.decoder : Decoder t.Model) r.payload with
    | error cause =>
      have haccept := accept_of_unread hroute (ht route hroute) hread
      have hnot : ¬ ∃ payload : t.Model, Except.error cause = .ok payload := by
        rintro ⟨payload, heq⟩
        cases heq
      rw [dispatch_of_error haccept]
      refine ⟨iff_of_false ?_ ?_, iff_of_true ⟨cause, rfl⟩ ⟨rfl, hnot⟩, ?_, ?_⟩
      · intro heq
        cases heq
      · intro hnone
        cases hnone
      · intro err heq
        cases heq
        exact ⟨.inr hnot, dispatch_of_refusal haccept⟩
      · intro _ payload heq
        cases heq
    | ok payload =>
      have haccept := accept_of_read hroute (ht route hroute) hread
      refine ⟨iff_of_false ?_ ?_, iff_of_false ?_ ?_, ?_, ?_⟩
      · exact not_error_of_accept haccept d e _
      · intro hnone
        cases hnone
      · rintro ⟨cause, heq⟩
        exact not_error_of_accept haccept d e _ heq
      · rintro ⟨-, hnot⟩
        exact hnot ⟨payload, rfl⟩
      · intro err heq
        exact absurd heq (not_error_of_accept haccept d e err)
      · rintro - payload' heq
        cases heq
        exact exists_response_of_accept haccept d e

/-- A request to create a casefile. -/
def creating (payload : Json) : Request Json where
  requestId := "r"
  operation := OperationName.createCasefile
  payload := payload

/-- The built-in hub refuses to create a casefile without a title, and creates one with a title. -/
theorem dispatch_creating_answers :
    (∃ cause, ((inMemory {}).dispatch (creating (.obj [])) none ⟨{}, 0, ⟨0⟩, 0⟩).1 =
      some (.error (.invalid [⟨"payload", .undecodable cause⟩]))) ∧
    ∃ resp e₁ e', (inMemory {}).dispatch (creating (.obj [("title", .str "t")])) none
        ⟨{}, 0, ⟨0⟩, 0⟩ = (some (.ok resp), e') ∧
      (inMemory {}).Settles (creating (.obj [("title", .str "t")]))
        ((TypedHandler.ofService Services.createCasefile).perform Store.services
          ((creating (.obj [])).withPayload ⟨"t", none, []⟩)) e₁ resp := by
  have ht (payload : Json) (route : Route Store)
      (hroute : (inMemory {}).operations.get? (creating payload).operation = some route) :
      route.handler = (TypedHandler.ofService Services.createCasefile).handle := by
    have hlisted : (Route.createCasefile : Route Store) ∈ Route.builtin := by simp [Route.builtin]
    have heq : some Route.createCasefile = some route :=
      (Route.get?_builtinTable hlisted).symm.trans hroute
    cases heq
    exact TypedHandler.typedHandler_eq Services.createCasefile
  refine ⟨?_, ?_⟩
  · refine (dispatch_trichotomy (ht (.obj [])) none ⟨{}, 0, ⟨0⟩, 0⟩).2.1.2 ⟨by decide +kernel, ?_⟩
    rintro ⟨payload, hread⟩
    cases hread
  · have hanswer := (dispatch_trichotomy (ht (.obj [("title", .str "t")])) none
      ⟨{}, 0, ⟨0⟩, 0⟩).2.2.2 (by decide +kernel) ⟨"t", none, []⟩ rfl
    rcases hanswer with ⟨resp, c, e₁, e', hrun, -, hsettles⟩ | ⟨hnone, -⟩
    · exact ⟨resp, e₁, e', hrun, hsettles⟩
    · exact absurd hnone (by decide +kernel)

end Hub

end CasefileHub
