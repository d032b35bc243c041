import CasefileHub.Proofs.Dispatch.Silence
import CasefileHub.Proofs.Service.Timeline
import CasefileHub.Proofs.Store
/-!
# The deadline of an operation

The time of an operation starts when the context is there and the first hooks have run, and ends
before the second hooks run. If the calls of the operation end in this time, the dispatch is as
without a deadline. Else the request fails for the time: the operation has started just the calls
before which there was time, and the second hooks run as ever and see the failed response.

    every built-in operation is sequential                                    (handler_sequential)
    a dispatch of a sequential operation keeps to its deadline            (dispatch_keeps_deadline)
-/

namespace CasefileHub

variable {σ α β : Type}

/-! ## Sequential operations -/

namespace Sequential

theorem map {m : Services (Timeline σ) → Timed (Timeline σ) α} (hm : Sequential m) (f : α → β) :
    Sequential fun s => f <$> m s :=
  hm.bind fun a => pure (f a)

theorem call_pure (a : α) :
    Sequential fun _ : Services (Timeline σ) => (Pure.pure a : ServiceCall (Timeline σ) α).run :=
  pure (Except.ok a)

theorem call_bind {x : Services (Timeline σ) → ServiceCall (Timeline σ) α}
    {f : α → Services (Timeline σ) → ServiceCall (Timeline σ) β}
    (hx : Sequential fun s => (x s).run) (hf : ∀ a, Sequential fun s => (f a s).run) :
    Sequential fun s => (x s >>= fun a => f a s).run := by
  simp only [ExceptT.run_bind]
  refine hx.bind fun r => ?_
  cases r with
  | ok a => exact hf a
  | error err => exact pure _

theorem call_map {x : Services (Timeline σ) → ServiceCall (Timeline σ) α}
    (hx : Sequential fun s => (x s).run) (f : α → β) : Sequential fun s => (f <$> x s).run := by
  simp only [ExceptT.run_map]
  exact hx.map _

end Sequential

theorem Workflow.part_sequential {P Q : Type} (r : Request P) (operation : String) (payload : Q) :
    Sequential fun _ : Services (Timeline σ) =>
      (part r operation payload : ServiceCall (Timeline σ) _).run :=
  .call_bind (x := fun _ => ExceptT.lift Timed.fresh) (Sequential.fresh.map _) fun _ => .call_pure _

theorem Workflow.workflow_sequential (r : Request CreateCasefileWithSession) :
    Sequential fun s : Services (Timeline σ) => (createCasefileWithSession s r).run := by
  unfold createCasefileWithSession
  refine .call_bind (part_sequential r _ _) fun create => ?_
  refine .call_bind (.createCasefile create) fun created => ?_
  simp only
  split
  · exact .call_pure _
  · refine .call_bind (part_sequential r _ _) fun start => ?_
    refine .call_bind (.createSession _) fun started => ?_
    refine .call_bind (part_sequential r _ _) fun link => ?_
    exact .call_bind (.addSession link) fun _ => .call_pure _

namespace Route

theorem typedHandler_sequential {Req Resp : Type} [Payload Req] [Payload Resp]
    {perform : Services (Timeline σ) → Request Req → ServiceCall (Timeline σ) Resp}
    (h : ∀ typed, Sequential fun s => (perform s typed).run) {r : Request Json}
    {call : Services (Timeline σ) → ServiceCall (Timeline σ) Json}
    (hr : typedHandler perform r = .ok call) : Sequential fun s => (call s).run := by
  obtain ⟨typed, rfl⟩ := exists_of_typedHandler perform hr
  exact .call_map (h typed) _

/-- Every built-in operation makes its calls one after the other. -/
theorem handler_sequential {route : Route (Timeline σ)} (hroute : route ∈ builtin)
    {r : Request Json} {call : Services (Timeline σ) → ServiceCall (Timeline σ) Json}
    (hr : route.handler r = .ok call) : Sequential fun s => (call s).run := by
  simp only [builtin, List.mem_cons, List.not_mem_nil, or_false] at hroute
  rcases hroute with rfl | rfl | rfl | rfl | rfl | rfl
  · exact typedHandler_sequential Sequential.createCasefile hr
  · exact typedHandler_sequential Sequential.getCasefile hr
  · exact typedHandler_sequential Sequential.addSession hr
  · exact typedHandler_sequential Sequential.createSession hr
  · exact typedHandler_sequential Sequential.processChat hr
  · exact typedHandler_sequential Workflow.workflow_sequential hr

end Route

/-! ## The stages of a dispatch -/

namespace Hub

/-- The hub with another deadline for its operations, or with none. -/
def limited (h : Hub σ) (seconds : Option Nat) : Hub σ :=
  { h with config := { h.config with operationTimeout := seconds } }

/-- What the response tells of a result. -/
def told : Except ServiceError Json → Except ErrorInfo Json :=
  Except.mapError fun err => ⟨err.kind, err.message⟩

section
variable {h : Hub σ} {call : ServiceCall σ Json} {operation : String} {d : Option Nat}
  {e e' : Environment σ}

theorem outcome_answered {result : Except ServiceError Json}
    (hlimit : Timed.withinOption h.config.operationTimeout call.run d e =
      (some (some result), e')) :
    h.outcome operation call d e = (some (told result), e') := by
  unfold outcome
  rw [Timed.bind_apply, hlimit]
  cases result <;> rfl

theorem outcome_given_up
    (hlimit : Timed.withinOption h.config.operationTimeout call.run d e = (some none, e')) :
    h.outcome operation call d e =
      (some (.error (timeout operation (h.config.timeoutMillis.getD 0))), e') := by
  unfold outcome
  rw [Timed.bind_apply, hlimit]
  rfl

end

/-- What is left to do once the operation has an outcome: the second hooks see the response. -/
theorem dispatch_of_outcome {h : Hub σ} {r : Request Json} {e e₁ e₂ e' : Environment σ}
    {call : Services σ → ServiceCall σ Json} {c c' : DispatchContext}
    {result : Except ErrorInfo Json} (haccept : h.accept r = .ok call)
    (hbegin : h.begin r none e = (some c, e₁))
    (houtcome : h.outcome r.operation (call h.services) none e₁ = (some result, e₂))
    (hhooks : Hook.runAll h.hooks .post (some (.ofOutcome r.requestId result)) c.hooks c e₂ =
      (c', e')) :
    h.dispatch r none e = (some (.ok (c'.annotated (.ofOutcome r.requestId result))), e') := by
  rw [dispatch_of_accept haccept, Timed.map_apply]
  unfold perform
  rw [Timed.bind_apply, hbegin]
  simp only
  rw [Timed.bind_apply, houtcome]
  simp only
  rw [finish_apply, hhooks]

/-- Repositories that wait and then answer hold no request up. -/
theorem exists_begun {s : Services σ} (hs : s.Instant) {delay : Timeline σ → Awaited → Nat}
    {h : Hub (Timeline σ)} (hservices : h.services = s.delayed delay) (r : Request Json)
    (e : Environment (Timeline σ)) : ∃ c e₁, h.begin r none e = (some c, e₁) := by
  rcases hbegin : h.begin r none e with ⟨_ | c, e₁⟩
  · have hstalls := stalls_of_begin hbegin
    rw [hservices] at hstalls
    rcases hstalls with ⟨id, e, hnone⟩ | ⟨id, e, hnone⟩
    · obtain ⟨calls, a, e', hlasts⟩ := Timed.paced_call delay (.session id) (hs.session? id) e
      exact absurd (hnone.symm.trans (congrArg Prod.fst hlasts.answers)) (by simp)
    · obtain ⟨calls, a, e', hlasts⟩ := Timed.paced_call delay (.casefile id) (hs.casefile? id) e
      exact absurd (hnone.symm.trans (congrArg Prod.fst hlasts.answers)) (by simp)
  · exact ⟨c, e₁, rfl⟩

/-- **A dispatch keeps to its deadline.** Let every call of the services wait, as long as it likes,
and let an operation make its calls one after the other. It begins once the context is there,
however long that took. If its calls take no longer than the deadline allows, the dispatch is as
without one. Else it is given up at the deadline, when it has started just the calls before which
there was time, and the request fails for the time, after the second hooks, which see the failed
response. -/
theorem dispatch_keeps_deadline {s : Services σ} (hs : s.Instant)
    {delay : Timeline σ → Awaited → Nat} {h : Hub (Timeline σ)}
    (hservices : h.services = s.delayed delay) {r : Request Json}
    {call : Services (Timeline σ) → ServiceCall (Timeline σ) Json}
    (haccept : h.accept r = .ok call) (hcall : Sequential fun services => (call services).run)
    (seconds : Nat) (e : Environment (Timeline σ)) :
    ∃ c e₁ calls result e₂ resp e',
      h.begin r none e = (some c, e₁) ∧
      (call h.services).run none e₁ = (some result, e₂) ∧
      e₂.state.started = e₁.state.started ++ calls ∧
      (h.limited none).dispatch r none e = (some (.ok resp), e') ∧
      (Started.total calls ≤ Timed.nanos seconds →
        (h.limited (some seconds)).dispatch r none e = (some (.ok resp), e')) ∧
      (Timed.nanos seconds < Started.total calls → ∃ started e₃ failed c' e'',
        (call h.services).run (some (e₁.clock + Timed.nanos seconds)) e₁ = (none, e₃) ∧
        e₃.clock = e₁.clock + Timed.nanos seconds ∧
        e₃.state.started = e₁.state.started ++ started ∧
        (∀ i, started[i]? =
          if Started.total (calls.take i) ≤ Timed.nanos seconds then calls[i]? else none) ∧
        failed = Response.failed r.requestId ⟨"timeout",
          r.operation ++ " exceeded " ++ Nat.repr (seconds * 1000) ++ " ms"⟩ ∧
        Hook.runAll h.hooks .post (some failed) c.hooks c e₃ = (c', e'') ∧
        (h.limited (some seconds)).dispatch r none e =
          (some (.ok { failed with metadata := (c'.annotated failed).metadata }), e'')) := by
  obtain ⟨c, e₁, hbegin⟩ := exists_begun hs hservices r e
  obtain ⟨calls, result, e₂, hlasts⟩ := hcall.paced hs delay e₁
  rw [← hservices] at hlasts
  -- without a deadline, and in time
  have houtcome : (h.limited none).outcome r.operation (call h.services) none e₁ =
      (some (told result), e₂) := outcome_answered hlasts.unlimited
  have hunlimited := dispatch_of_outcome (h := h.limited none) haccept hbegin houtcome rfl
  refine ⟨c, e₁, calls, result, e₂, _, _, hbegin, hlasts.answers, hlasts.started, hunlimited,
    fun hle => ?_, fun hlt => ?_⟩
  · have hin_time : (h.limited (some seconds)).outcome r.operation (call h.services) none e₁ =
        (some (told result), e₂) := outcome_answered (hlasts.within_time hle)
    exact dispatch_of_outcome (h := h.limited (some seconds)) haccept hbegin hin_time rfl
  · obtain ⟨e₃, hrun, hclock, hstarted, hlimit⟩ := hlasts.given_up hlt
    have hlate : (h.limited (some seconds)).outcome r.operation (call h.services) none e₁ =
        (some (.error (timeout r.operation (seconds * 1000))), e₃) := outcome_given_up hlimit
    refine ⟨_, e₃, _, _, _, hrun, hclock, hstarted, fun i => Started.getElem?_startedIn _ _ i, rfl,
      rfl, ?_⟩
    have hdispatch :=
      dispatch_of_outcome (h := h.limited (some seconds)) haccept hbegin hlate rfl
    rw [DispatchContext.annotated_eq] at hdispatch
    exact hdispatch

end Hub

/-! ## The store at the deadline -/

namespace Store

theorem call_instant (f : Timestamp → Store → Except ServiceError (α × Store)) :
    (call f).run.Instant := by
  intro e
  cases hf : f e.now e.state with
  | ok p => exact ⟨.ok p.1, { e with state := p.2 }, rfl, fun d => by rw [call_apply, hf]⟩
  | error err => exact ⟨.error err, e, rfl, fun d => by rw [call_apply, hf]⟩

theorem fresh_bind_instant {f : Nat → ServiceCall Store α} (h : ∀ n, (f n).run.Instant) :
    (fresh >>= f).run.Instant := by
  intro e
  obtain ⟨a, e', hclock, hrun⟩ := h e.unused { e with unused := e.unused + 1 }
  refine ⟨a, e', hclock, fun d => ?_⟩
  rw [ServiceCall.run_bind_apply, fresh_apply]
  exact hrun d

/-- The services of the store answer at once. -/
theorem services_instant : services.Instant where
  session? id := call_instant fun _ s => .ok (s.session? id, s)
  casefile? id := call_instant fun _ s => .ok (s.casefile? id, s)
  createCasefile _ := fresh_bind_instant fun _ => call_instant _
  getCasefile r := call_instant fun _ s => (s.getCasefile r).map (·, s)
  addSession r := call_instant fun now s => s.addSession now r
  createSession _ := fresh_bind_instant fun _ => call_instant _
  processChat r := call_instant fun now s => s.processChat now r

end Store

namespace Hub

/-- Look-ups wait a hundred seconds, and the steps of the workflow three, seven and five. -/
def unhurried (_ : Timeline Store) : Awaited → Nat
  | .session _ | .casefile _ => Timed.nanos 100
  | .answer (.createCasefile _) => Timed.nanos 3
  | .answer (.createSession _) => Timed.nanos 7
  | .answer (.addSession _) => Timed.nanos 5
  | .answer _ | .timer => 0

def unhurriedHub : Hub (Timeline Store) :=
  standard .builtin (Store.services.delayed unhurried) {}

/-- A request for a casefile with a session in it, within another session. -/
def composite : Request Json where
  requestId := "r"
  sessionId := some "ts_0"
  operation := OperationName.createCasefileWithSession
  payload := .obj [("title", .str "Outage")]
  contextRequirements := [DispatchContext.sessionRequirement]

/-- The call of it. -/
def compositeCall : Services (Timeline Store) → ServiceCall (Timeline Store) Json := fun s =>
  Payload.toJson <$> Workflow.createCasefileWithSession s
    (composite.withPayload { title := "Outage", autoStartSession := true })

def midnight : Environment (Timeline Store) := { state := { state := {} } }

/-- With ten seconds the third call is still started, as it is just time, and then given up. -/
theorem composite_cut_off_at_its_third_call : ∃ resp e',
    (unhurriedHub.limited (some 10)).dispatch composite none midnight = (some (.ok resp), e') ∧
      resp.status = .failed ∧ resp.error.map ErrorInfo.kind = some "timeout" ∧
      e'.clock = Timed.nanos 110 ∧
      e'.state.started.map Started.delay = [100, 3, 7, 5].map Timed.nanos := by
  have haccept : unhurriedHub.accept composite = .ok compositeCall := rfl
  have hroute : (Route.createCasefileWithSession : Route (Timeline Store)) ∈ Route.builtin := by
    simp [Route.builtin]
  have hcall : Sequential fun s => (compositeCall s).run :=
    Route.handler_sequential hroute (r := composite) rfl
  obtain ⟨c, e₁, calls, result, e₂, -, -, hbegin, hrun, hcalls, -, -, hlate⟩ :=
    dispatch_keeps_deadline Store.services_instant rfl haccept hcall 10 midnight
  obtain rfl : (unhurriedHub.begin composite none midnight).2 = e₁ := congrArg Prod.snd hbegin
  obtain rfl : ((compositeCall unhurriedHub.services).run none
    (unhurriedHub.begin composite none midnight).2).2 = e₂ := congrArg Prod.snd hrun
  have hdrop : (((compositeCall unhurriedHub.services).run none
      (unhurriedHub.begin composite none midnight).2).2.state.started).drop 1 = calls := by
    rw [hcalls]
    rfl
  obtain ⟨started, e₃, failed, c', e', -, hclock, hstarted, hindex, rfl, hhooks, hdispatch⟩ :=
    hlate (by rw [← hdrop]; decide +kernel)
  obtain rfl : Started.startedIn (Timed.nanos 10) calls = started :=
    List.ext_getElem? fun i => by rw [hindex, Started.getElem?_startedIn]
  -- the second hooks leave the environment alone
  obtain rfl : e₃ = e' :=
    (Hook.runAll_view id Hook.builtin_silent .post _ c.hooks c e₃).symm.trans
      (congrArg Prod.snd hhooks)
  refine ⟨_, _, hdispatch, rfl, rfl, ?_, ?_⟩
  · rw [hclock]
    decide +kernel
  · rw [hstarted, ← hdrop]
    decide +kernel

end Hub

end CasefileHub
