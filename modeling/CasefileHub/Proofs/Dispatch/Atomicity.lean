import CasefileHub.Proofs.Dispatch.Silence
import CasefileHub.Proofs.Workflow
/-!
# Failed dispatches

A dispatch over the store that is refused, or whose response has failed, leaves the store as it was.
Fetching the context and running the hooks change nothing, a refusal calls nothing, and every
built-in operation is atomic. This holds for any deadline, since no operation waits, and for any
hooks that leave the store alone, as the built-in ones do:

    route ∈ Route.builtin → route.handler r = ok call → (call Store.services).Atomic
                                                                     (handler_atomic)
    h.dispatch r answers, and if it fails the store is as before     (dispatch_failed_keeps_store)
-/

namespace CasefileHub

variable {σ α : Type}

/-! ## Hooks -/

/-- A hook that leaves the state alone. -/
def Hook.Passive (k : Hook σ) : Prop :=
  ∀ stage response c e, (k.run stage response c e).2.state = e.state

/-- All hooks of a registry leave the state alone. -/
def Hook.AllPassive (hooks : Registry (Hook σ)) : Prop :=
  ∀ name k, hooks.get? name = some k → k.Passive

theorem Hook.builtin_passive : Hook.AllPassive (Hook.builtin : Registry (Hook σ)) :=
  fun name k h stage response c e => congrArg _ (builtin_silent name k h stage response c e)

theorem Hook.runAll_state {hooks : Registry (Hook σ)} (h : Hook.AllPassive hooks)
    (stage : HookStage) (response : Option Response) (names : List String) (c : DispatchContext)
    (e : Environment σ) : (runAll hooks stage response names c e).2.state = e.state :=
  runAll_view Environment.state h stage response names c e

theorem Hook.runStage_keeps {hooks : Registry (Hook σ)} (h : Hook.AllPassive hooks)
    (stage : HookStage) (response : Option Response) (c : DispatchContext) :
    (runStage hooks stage response c).Keeps :=
  Timed.keeps_step fun e => runAll_state h stage response c.hooks c e

/-! ## Context -/

namespace DispatchContext

theorem status_attach (c : DispatchContext) (r : Response) :
    (c.attachSkipped (c.attach r)).status = r.status := by
  show (c.annotated r).status = r.status
  rw [annotated_eq]

end DispatchContext

/-! ## Operations -/

theorem Route.typedHandler_atomic {Req Resp : Type} [Payload Req] [Payload Resp]
    {perform : Services Store → Request Req → ServiceCall Store Resp}
    (h : ∀ typed, (perform Store.services typed).Atomic) {r : Request Json}
    {call : Services Store → ServiceCall Store Json} (hr : typedHandler perform r = .ok call) :
    (call Store.services).Atomic := by
  obtain ⟨typed, rfl⟩ := exists_of_typedHandler perform hr
  exact (h typed).map Payload.toJson

/-- Every built-in operation is atomic. -/
theorem Route.handler_atomic {route : Route Store} (hroute : route ∈ Route.builtin)
    {r : Request Json} {call : Services Store → ServiceCall Store Json}
    (hr : route.handler r = .ok call) : (call Store.services).Atomic := by
  simp only [builtin, List.mem_cons, List.not_mem_nil, or_false] at hroute
  rcases hroute with rfl | rfl | rfl | rfl | rfl | rfl
  · exact typedHandler_atomic Store.createCasefile_atomic hr
  · exact typedHandler_atomic Store.getCasefile_atomic hr
  · exact typedHandler_atomic Store.addSession_atomic hr
  · exact typedHandler_atomic Store.createSession_atomic hr
  · exact typedHandler_atomic Store.processChat_atomic hr
  · exact typedHandler_atomic Workflow.createCasefileWithSession_atomic hr

namespace Hub

variable {h : Hub Store}

theorem outcome_of_atomic {call : ServiceCall Store Json} (hcall : call.Atomic)
    (operation : String) (d : Option Nat) (e : Environment Store) :
    ∃ r e', h.outcome operation call d e = (some r, e') ∧
      ∀ err, r = .error err → e'.state = e.state := by
  have answers : ∀ d e, ∃ a e', call.run d e = (some a, e') := by
    intro d e
    obtain ⟨a, e', hrun, -⟩ := hcall d e
    exact ⟨a, e', hrun⟩
  obtain ⟨a, e', inner, hrun, hlimit⟩ :=
    Timed.withinOption_of_answers answers h.config.operationTimeout d e
  obtain ⟨a', e'', hrun', hstate⟩ := hcall inner e
  rw [hrun] at hrun'
  cases hrun'
  unfold outcome
  rw [Timed.bind_apply, hlimit]
  cases a with
  | ok payload => exact ⟨_, e', rfl, fun err herr => by cases herr⟩
  | error err => exact ⟨_, e', rfl, fun _ _ => hstate err rfl⟩

theorem begin_keeps (hs : h.services = Store.services) (hh : Hook.AllPassive h.hooks)
    (r : Request Json) : (h.begin r).Keeps := by
  unfold begin
  rw [hs]
  exact .bind (DispatchContext.prepare_silent Store.services_silent r _ _).keeps fun c =>
    .bind (Hook.runStage_keeps hh .pre none c) fun c' => Timed.keeps_pure _

theorem finish_keeps (hh : Hook.AllPassive h.hooks) (r : Request Json) (c : DispatchContext)
    (result : Except ErrorInfo Json) (d : Option Nat) (e : Environment Store) :
    ∃ resp e', h.finish r c result d e = (some resp, e') ∧ e'.state = e.state ∧
      resp.status = (Response.ofOutcome r.requestId result).status := by
  obtain ⟨c', e', hrun, hstate⟩ :=
    Hook.runStage_keeps hh .post (some (Response.ofOutcome r.requestId result)) c d e
  refine ⟨_, e', ?_, hstate, DispatchContext.status_attach c' _⟩
  unfold finish
  rw [Timed.bind_apply, hrun]
  rfl

/-- A request that is performed gets a response, and one with a failed status stored nothing. -/
theorem perform_failed_keeps (hs : h.services = Store.services) (hh : Hook.AllPassive h.hooks)
    (r : Request Json) {call : Services Store → ServiceCall Store Json}
    (hcall : (call Store.services).Atomic) (d : Option Nat) (e : Environment Store) :
    ∃ resp e', h.perform r call d e = (some resp, e') ∧
      (resp.status = .failed → e'.state = e.state) := by
  obtain ⟨c, e₁, hbegin, s₁⟩ := begin_keeps hs hh r d e
  obtain ⟨result, e₂, houtcome, s₂⟩ := outcome_of_atomic (h := h) hcall r.operation d e₁
  obtain ⟨resp, e₃, hfinish, s₃, hstatus⟩ := finish_keeps hh r c result d e₂
  refine ⟨resp, e₃, ?_, fun hfailed => ?_⟩
  · unfold perform
    rw [Timed.bind_apply, hbegin]
    simp only
    rw [Timed.bind_apply, hs, houtcome]
    exact hfinish
  · rw [hstatus] at hfailed
    cases result with
    | ok payload => cases hfailed
    | error err => exact s₃.trans ((s₂ err rfl).trans s₁)

/-- **Failed dispatches change nothing.** Over the store, a request for a built-in operation, or for
none, is answered, whatever the deadline; where the answer is an error or a failed response, the
store is as before. The workflow, which has no rollback, succeeds whenever its first step does. -/
theorem dispatch_failed_keeps_store (h : Hub Store) (hs : h.services = Store.services)
    (hh : Hook.AllPassive h.hooks) (r : Request Json)
    (hr : ∀ route, h.operations.get? r.operation = some route → route ∈ Route.builtin)
    (d : Option Nat) (e : Environment Store) :
    (∃ answer e', h.dispatch r d e = (some answer, e') ∧
      (∀ err, answer = .error err → e'.state = e.state) ∧
      ∀ resp, answer = .ok resp → resp.status = .failed → e'.state = e.state) ∧
    ∀ (p : Request CreateCasefileWithSession) (id : String) (a : CasefileCreated)
      (e₁ : Environment Store),
      (Store.services.createCasefile (Workflow.firstPart p id)).run d e = (some (.ok a), e₁) →
        (Workflow.createCasefileWithSession Store.services p).Succeeds (fun _ => True)
          Workflow.Stored := by
  refine ⟨?_, fun p id a e₁ hfirst => Workflow.succeeds_of_firstPart hfirst⟩
  unfold dispatch
  cases haccept : h.accept r with
  | error err => exact ⟨_, e, rfl, fun _ _ => rfl, fun resp hresp => by cases hresp⟩
  | ok call =>
    have hcall : (call Store.services).Atomic := by
      unfold accept at haccept
      split at haccept
      · cases haccept
      · rename_i route hroute
        split at haccept
        · cases haccept
        · rename_i call' hhandler
          cases haccept
          exact Route.handler_atomic (hr route hroute) hhandler
    obtain ⟨resp, e', hrun, hfailed⟩ := perform_failed_keeps hs hh r hcall d e
    refine ⟨.ok resp, e', ?_, fun err herr => (by cases herr), fun resp' hresp => ?_⟩
    · simp only
      rw [Timed.map_apply, hrun]
    · cases hresp
      exact hfailed

/-- A request to create a casefile, with a title of blanks. -/
def blankTitle : Request Json where
  requestId := "r"
  operation := OperationName.createCasefile
  payload := .obj [("title", .str "  ")]

/-- The built-in hub fails on a blank title, and its store stays empty. -/
theorem dispatch_blankTitle_keeps_store :
    ∃ resp e', (inMemory {}).dispatch blankTitle none ⟨{}, 0, ⟨0⟩, 0⟩ = (some (.ok resp), e') ∧
      resp.status = .failed ∧ e'.state = {} := by
  obtain ⟨⟨answer, e', hrun, -, hfailed⟩, -⟩ :=
    dispatch_failed_keeps_store (inMemory {}) rfl Hook.builtin_passive blankTitle
      (fun route => Route.mem_builtin_of_get?) none ⟨{}, 0, ⟨0⟩, 0⟩
  have hstatus : (((inMemory {}).dispatch blankTitle none ⟨{}, 0, ⟨0⟩, 0⟩).1.bind
      Except.toOption).map Response.status = some .failed := by decide +kernel
  rw [hrun] at hstatus
  cases answer with
  | error err => cases hstatus
  | ok resp =>
    have hs : resp.status = .failed := Option.some.inj hstatus
    exact ⟨resp, e', hrun, hs, hfailed resp rfl hs⟩

end Hub

end CasefileHub
