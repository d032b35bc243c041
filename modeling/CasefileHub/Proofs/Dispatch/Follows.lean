import CasefileHub.Proofs.Dispatch.Answer
import CasefileHub.Proofs.Timed.Follows
/-!
# What a dispatch can do to an environment

A dispatch acts through the services and the hooks only. So if these follow a course, the workflow,
the built-in operations and whole dispatches follow it too, whatever comes of them: success, failure,
refusal, or a deadline that passes in the middle of an operation.

    services.Follow R → (createCasefileWithSession services r).Follows R       (workflow_follows)
    services.Follow R → hooks follow R → (h.dispatch r).Follows R              (dispatch_follows)
-/

namespace CasefileHub

variable {σ : Type} {R : Environment σ → Environment σ → Prop} (hR : Environment.Course R)

/-! ## The workflow -/

include hR in
theorem Workflow.part_follows {P Q : Type} (r : Request P) (operation : String) (payload : Q) :
    (part r operation payload : ServiceCall σ (Request Q)).Follows R :=
  .bind hR (ServiceCall.follows_lift hR (Timed.follows_fresh hR)) fun _ =>
    ServiceCall.follows_pure hR _

include hR in
theorem Workflow.workflow_follows {services : Services σ} (hs : services.Follow R)
    (r : Request CreateCasefileWithSession) :
    (createCasefileWithSession services r).Follows R := by
  unfold createCasefileWithSession
  refine .bind hR (part_follows hR r _ _) fun create => ?_
  refine .bind hR (hs.createCasefile create) fun created => ?_
  simp only
  split
  · exact ServiceCall.follows_pure hR _
  · refine .bind hR (part_follows hR r _ _) fun start => ?_
    refine .bind hR (hs.createSession _) fun started => ?_
    refine .bind hR (part_follows hR r _ _) fun link => ?_
    exact .bind hR (hs.addSession link) fun _ => ServiceCall.follows_pure hR _

/-! ## Operations -/

namespace Route

theorem typedHandler_follows {Req Resp : Type} [Payload Req] [Payload Resp]
    {services : Services σ} {perform : Services σ → Request Req → ServiceCall σ Resp}
    (h : ∀ typed, (perform services typed).Follows R) {r : Request Json}
    {call : Services σ → ServiceCall σ Json} (hr : typedHandler perform r = .ok call) :
    (call services).Follows R := by
  obtain ⟨typed, rfl⟩ := exists_of_typedHandler perform hr
  exact ServiceCall.follows_map_iff.2 (h typed)

include hR in
/-- The built-in operations act through the services only. -/
theorem handler_follows {services : Services σ} (hs : services.Follow R) {route : Route σ}
    (hroute : route ∈ builtin) {r : Request Json} {call : Services σ → ServiceCall σ Json}
    (hr : route.handler r = .ok call) : (call services).Follows R := by
  simp only [builtin, List.mem_cons, List.not_mem_nil, or_false] at hroute
  rcases hroute with rfl | rfl | rfl | rfl | rfl | rfl
  · exact typedHandler_follows hs.createCasefile hr
  · exact typedHandler_follows hs.getCasefile hr
  · exact typedHandler_follows hs.addSession hr
  · exact typedHandler_follows hs.createSession hr
  · exact typedHandler_follows hs.processChat hr
  · exact typedHandler_follows (Workflow.workflow_follows hR hs) hr

end Route

/-! ## Context and hooks -/

/-- All hooks of a registry follow a relation. -/
def Hook.AllFollow (R : Environment σ → Environment σ → Prop) (hooks : Registry (Hook σ)) : Prop :=
  ∀ name k, hooks.get? name = some k → ∀ stage response c e, R e (k.run stage response c e).2

include hR

namespace DispatchContext

theorem found_follows {α : Type} {call : ServiceCall σ (Option α)} (h : call.Follows R) :
    (found call).Follows R := by
  refine Timed.Follows.bind hR h fun answer => ?_
  cases answer with
  | ok a => exact Timed.follows_pure hR a
  | error err => exact Timed.follows_pure hR none

theorem fetch_follows {α : Type} {repository : String → ServiceCall σ (Option α)}
    (h : ∀ id, (repository id).Follows R) (id : Option String) :
    (fetch repository id).Follows R := by
  cases id with
  | none => exact Timed.follows_pure hR none
  | some id => exact found_follows hR (h id)

theorem prepare_follows {services : Services σ} (hs : services.Follow R) (r : Request Json)
    (policy : String) (defaults : PolicyDefaults) :
    (prepare services r policy defaults).Follows R :=
  .bind hR (fetch_follows hR hs.session? _) fun _ =>
    .bind hR (fetch_follows hR hs.casefile? _) fun _ => Timed.follows_pure hR _

end DispatchContext

theorem Hook.runStage_follows {hooks : Registry (Hook σ)} (hh : AllFollow R hooks)
    (stage : HookStage) (response : Option Response) (c : DispatchContext) :
    (runStage hooks stage response c).Follows R := by
  intro d e
  show R e (runAll hooks stage response c.hooks c e).2
  unfold runAll
  generalize c.hooks = names
  induction names generalizing c e with
  | nil => exact hR.refl e
  | cons name rest ih =>
    rw [List.foldl_cons]
    simp only
    cases hk : hooks.get? name with
    | none => exact ih c e
    | some k => exact hR.trans (hh name k hk stage response c e) (ih _ _)

/-! ## Dispatches -/

namespace Hub

variable {h : Hub σ}

theorem outcome_follows {call : ServiceCall σ Json} (hcall : call.Follows R) (operation : String) :
    (h.outcome operation call).Follows R := by
  refine Timed.Follows.bind hR (Timed.Follows.withinOption hR hcall _) fun result => ?_
  rcases result with _ | _ | _ <;> exact Timed.follows_pure hR _

theorem begin_follows (hs : h.services.Follow R) (hh : Hook.AllFollow R h.hooks)
    (r : Request Json) : (h.begin r).Follows R :=
  .bind hR (DispatchContext.prepare_follows hR hs r _ _) fun c =>
    .bind hR (Hook.runStage_follows hR hh .pre none c) fun _ => Timed.follows_pure hR _

theorem finish_follows (hh : Hook.AllFollow R h.hooks) (r : Request Json) (c : DispatchContext)
    (result : Except ErrorInfo Json) : (h.finish r c result).Follows R :=
  .bind hR (Hook.runStage_follows hR hh .post _ c) fun _ => Timed.follows_pure hR _

theorem perform_follows (hs : h.services.Follow R) (hh : Hook.AllFollow R h.hooks)
    (r : Request Json) {call : Services σ → ServiceCall σ Json}
    (hcall : (call h.services).Follows R) : (h.perform r call).Follows R :=
  .bind hR (begin_follows hR hs hh r) fun c =>
    .bind hR (outcome_follows hR hcall r.operation) fun result => finish_follows hR hh r c result

/-- A dispatch of a built-in operation, or of none, follows what the services and hooks follow. -/
theorem dispatch_follows (hs : h.services.Follow R) (hh : Hook.AllFollow R h.hooks)
    {r : Request Json}
    (hr : ∀ route, h.operations.get? r.operation = some route → route ∈ Route.builtin) :
    (h.dispatch r).Follows R := by
  cases haccept : h.accept r with
  | error err =>
    rw [dispatch_of_error haccept]
    exact Timed.follows_pure hR _
  | ok call =>
    obtain ⟨route, hroute, hhandler⟩ := exists_route_of_accept haccept
    rw [dispatch_of_accept haccept]
    have hcall := Route.handler_follows hR hs (hr route hroute) hhandler
    exact (perform_follows hR hs hh r hcall).map hR _

end Hub

end CasefileHub
