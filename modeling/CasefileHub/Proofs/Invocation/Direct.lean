import CasefileHub.Proofs.Dispatch.Promptness
import CasefileHub.Proofs.Invocation.Payloads
/-!
# Invocations and dispatches

A tool that is bound to a method, and has no implementation of its own, is executed by dispatches of
the operation that is routed to the method. Over the store an attempt that fails has only used up
numbers, so that the next one starts from the same store. However many attempts there are, an
execution comes to what one dispatch of the same request does:

    attempts of a clean computation come to what one of them does alone       (attempting_of_clean)
    an attempt is a dispatch that is reported                                      (attempt_eq_work)
    an execution leaves the store of one dispatch behind and reports it  (execution_is_one_dispatch)
-/

namespace CasefileHub

/-! ## Attempts -/

/-- Of attempts that fail and leave nothing behind only the last one counts. -/
theorem attempting_of_clean {σ : Type} {once : Timed σ (Except HubError Json)} (h : once.Clean)
    (further : Nat) (e : Environment σ) :
    ∃ k n r e', (∀ d, attempting once further d e = (some (k, r), e')) ∧ 1 ≤ k ∧ e.unused ≤ n ∧
      ∀ d, once d { e with unused := n } = (some r, e') := by
  induction further generalizing e with
  | zero =>
    obtain ⟨r, e', hr⟩ := h.prompt e
    exact ⟨1, e.unused, r, e', fun d => attempting_zero (hr d), Nat.le_refl _, Nat.le_refl _, hr⟩
  | succ further ih =>
    obtain ⟨r, e₁, hr⟩ := h.prompt e
    by_cases hagain : ∃ kind text, r = .error (.execution kind text)
    · -- the attempt has only used up numbers, and the next ones start from the same state
      obtain ⟨kind, text, rfl⟩ := hagain
      obtain ⟨n₁, hn₁, rfl⟩ := h.wastes (hr none)
      obtain ⟨k, n, r, e', hrest, hk, hn, hlast⟩ := ih { e with unused := n₁ }
      exact ⟨k + 1, n, r, e', fun d => attempting_of_execution (hr d) (hrest d), by omega,
        Nat.le_trans hn₁ hn, hlast⟩
    · refine ⟨1, e.unused, r, e₁, fun d => ?_, Nat.le_refl _, Nat.le_refl _, hr⟩
      exact attempting_of_settled (hr d) fun kind text heq => hagain ⟨kind, text, heq⟩

namespace Invoker

variable {σ : Type} {i : Invoker σ} {a : Admission} {options : InvokeOptions}

/-- Work that is prompt is not given up. -/
theorem attempt_eq_work (h : (i.work a options.caller).Prompt) :
    i.attempt a options = i.work a options.caller := by
  funext d e
  obtain ⟨r, e', hr⟩ := h e
  unfold attempt
  rw [Timed.bind_apply, Timed.withinOption_apply hr, hr d]
  rfl

/-- An execution of clean work, within its limit, comes to what one attempt does. -/
theorem execute_of_clean (hfits : ¬ i.Overflows a) (h : (i.work a options.caller).Clean)
    (e : Environment σ) :
    ∃ n answer r e', (∀ d, i.execute a options d e = (some r, e')) ∧ 1 ≤ r.attempts ∧
      r.outcome = .ofResult answer ∧ e.unused ≤ n ∧
      ∀ d, i.work a options.caller d { e with unused := n } = (some answer, e') := by
  obtain ⟨limit, hlimit⟩ := exists_limit_of_not_overflows hfits
  have hattempt := attempt_eq_work h.prompt
  rw [← hattempt] at h
  obtain ⟨k, n, answer, e', hrun, hk, hn, hlast⟩ := attempting_of_clean h (limit.toNat - 1) e
  refine ⟨n, answer, _, e', fun d => execute_of_attempting hlimit (hrun d), hk, rfl, hn, ?_⟩
  rw [← hattempt]
  exact hlast

end Invoker

/-! ## Reports -/

/-- The outcome of an execution says what has become of a dispatch: it is a success exactly if the
request was completed, and else a failure of the same kind. -/
inductive ToolOutcome.Reports : ToolOutcome → Except HubError Response → Prop
  | completed {v : Json} {resp : Response} (hstatus : resp.status = .completed) :
      Reports (.success v) (.ok resp)
  | failed {err : HubError} {resp : Response} {info : ErrorInfo} (hstatus : resp.status = .failed)
      (herror : resp.error = some info) (hkind : err.kind = info.kind) :
      Reports (.failure err) (.ok resp)
  | refused {err err' : HubError} (hkind : err.kind = err'.kind) :
      Reports (.failure err) (.error err')

namespace ToolOutcome

/-- A report of one dispatch is a report of all of the same fate. -/
theorem Reports.of_sameFate {o : ToolOutcome} {answer answer' : Except HubError Response}
    (h : o.Reports answer) (hfate : Hub.SameFate answer answer') : o.Reports answer' := by
  cases hfate with
  | refused err => exact h
  | failed hstatus hstatus' herror =>
    cases h with
    | completed hcompleted =>
      rw [hstatus] at hcompleted
      cases hcompleted
    | failed _ hinfo hkind => exact .failed hstatus' (herror.trans hinfo) hkind
  | completed hstatus hstatus' =>
    cases h with
    | completed _ => exact .completed hstatus'
    | failed hfailed _ _ =>
      rw [hstatus] at hfailed
      cases hfailed

end ToolOutcome

/-! ## Executions through a hub -/

namespace Hub.Serves

variable {h : Hub Store} {route : Route Store}

/-- An operation with a built-in handler is steady, whatever its name. -/
theorem of_handler_eq (hs : h.services = Store.services) (hh : Hook.AllSilent h.hooks)
    (hroute : route ∈ h.operations.toList) {b : Route Store} (hb : b ∈ Route.builtin)
    (hhandler : route.handler = b.handler) : h.Serves route where
  services := hs
  hooks := hh
  registered := Registry.get?_of_mem_toList hroute
  steady := by
    obtain ⟨hclean, hrepeats⟩ := Route.builtin_steady hb
    constructor
    · rw [hhandler]
      exact hclean
    · rw [hhandler]
      exact hrepeats

/-- What an execution of the method answers is a report of the dispatch. -/
theorem reports (hx : h.Serves route) {r : Request Json} (hop : r.operation = route.operation)
    {d : Option Nat} {e e' : Environment Store} {answer : Except HubError Response}
    (hrun : h.dispatch r d e = (some answer, e')) :
    (ToolOutcome.ofResult (answer.bind (payload route.operation))).Reports answer ∧
      ∀ v, ToolOutcome.ofResult (answer.bind (payload route.operation)) = .success v →
        ∃ resp, answer = .ok resp ∧ resp.payload = v := by
  cases hhandler : route.handler r with
  | error cause =>
    rw [hx.dispatch_of_error hop hhandler] at hrun
    cases hrun
    exact ⟨.refused rfl, fun v hv => by cases hv⟩
  | ok call =>
    obtain ⟨result, e₁, hcall⟩ := (hx.steady.clean hhandler).prompt e
    obtain ⟨metadata, hdispatch⟩ := hx.dispatch_of_ok hop hhandler hcall d
    rw [hdispatch] at hrun
    cases hrun
    cases result with
    | ok payload => exact ⟨.completed rfl, fun v hv => by cases hv; exact ⟨_, rfl, rfl⟩⟩
    | error err => exact ⟨.failed rfl rfl rfl, fun v hv => by cases hv⟩

end Hub.Serves

/-- **A tool does what one dispatch does, however often it is tried.** The hub over the store executes
a tool, and exactly one operation, with a built-in handler, is routed to the method of the tool. A
call that passes all gates is answered, under any deadline, unless the number of attempts allowed
overflows in a build that aborts then, before the first attempt. The store is then the one that a single
dispatch leaves behind, from the store before the call: of the operation that is routed to the method,
with the validated parameters, the user and the session of the caller, and the casefile of the caller
in the metadata. The result is a success with the payload of the response exactly if the request was
completed, and else a failure of the kind of the failed response or of the refusal. So it is, up to a
renaming of what is new, for a dispatch with any other numbers and times, and under any id. -/
theorem execution_is_one_dispatch {h : Hub Store} (hs : h.services = Store.services)
    (hh : Hook.AllSilent h.hooks) {m : String} {route b : Route Store}
    (hroute : route ∈ h.operations.toList) (hmethod : route.method = m)
    (hunique : ∀ other ∈ h.operations.toList, other.method = m → other = route)
    (hb : b ∈ Route.builtin) (hhandler : route.handler = b.handler)
    {i : Invoker Store} {t : Tool} (hi : i.LeavesTo t h) (hm : t.methodName = some m)
    {c : ToolCall} (ht : c.tool? = some t) {e : Environment Store} (he : Store.Reachable e)
    (hopen : ∀ g, c.Opens e.now g) :
    ∃ p, t.validate c.raw = .ok p ∧
      (i.Overflows ⟨t, c.method? t, p⟩ → ∀ d, c.invoke i d e = (none, e)) ∧
      (¬ i.Overflows ⟨t, c.method? t, p⟩ → ∃ r q' e',
      (∀ d, c.invoke i d e = (some (.ok r, q'), e')) ∧ 1 ≤ r.attempts ∧
      (∃ n answer, e.unused ≤ n ∧
        h.dispatch (Hub.requestOf c.caller (Identifier.request n) route.operation p) none
          { e with unused := n + 1 } = (some answer, e') ∧
        r.outcome.Reports answer ∧
        ∀ v, r.outcome = .success v → ∃ resp, answer = .ok resp ∧ resp.payload = v) ∧
      ∀ e₁ id d, Store.Reachable e₁ → e₁.state = e.state →
        ∃ answer e₁', h.dispatch (Hub.requestOf c.caller id route.operation p) d e₁ =
            (some answer, e₁') ∧
          r.outcome.Reports answer ∧
          ∃ ρ : Renaming, ρ.Fixes e.state ∧ e'.state.Matches ρ e₁'.state) := by
  have hx : h.Serves route := .of_handler_eq hs hh hroute hb hhandler
  have hrouted := Route.toMethod?_of_unique hroute hmethod hunique
  obtain ⟨t', p, q', ht', hp, -, hexec⟩ := ToolCall.invoke_of_opens hopen
  obtain rfl : t' = t := Option.some.inj (ht'.symm.trans ht)
  refine ⟨p, hp, fun hover d => ?_, fun hfits => ?_⟩
  · rw [hexec, Timed.map_apply, Invoker.execute_of_overflows hover]
  have hwork : i.work ⟨t', c.method? t', p⟩ c.options.caller =
      h.executeMethod m p c.options.caller := hi.work (a := ⟨t', c.method? t', p⟩) hm _
  have hclean := hx.executeMethod_clean hrouted p c.options.caller
  rw [← hwork] at hclean
  obtain ⟨n, reported, r, e', hrun, hpos, houtcome, hn, hlast⟩ :=
    Invoker.execute_of_clean hfits hclean e
  -- the last attempt is one dispatch, from the store before the call
  have hattempt := hlast none
  rw [hwork] at hattempt
  obtain ⟨answer, hdispatch, rfl⟩ := Hub.exists_dispatch_of_executeMethod hrouted hattempt
  obtain ⟨hreports, hpayload⟩ := hx.reports rfl hdispatch
  rw [← houtcome] at hreports hpayload
  refine ⟨r, q', e', fun d => ?_, hpos, ⟨n, answer, hn, hdispatch, hreports, hpayload⟩, ?_⟩
  · rw [hexec, Timed.map_apply, hrun]
  · intro e₁ id d he₁ hstate
    obtain ⟨k, hevolves⟩ := he
    have hlater : Store.Reachable { e with unused := n + 1 } :=
      ⟨k, hevolves.take (Nat.le_succ_of_le hn)⟩
    obtain ⟨answer₁, answer', e₂, e₁', hdispatch', hagain, hfate, hmatch⟩ :=
      hx.dispatch_repeats (r := Hub.requestOf c.caller (Identifier.request n) route.operation p) rfl
        id hlater he₁ hstate none d
    obtain ⟨rfl, rfl⟩ : answer₁ = answer ∧ e₂ = e' := by
      have hsame := hdispatch'.symm.trans hdispatch
      simpa using hsame
    exact ⟨answer', e₁', hagain, hreports.of_sameFate hfate, hmatch⟩

/-! ## A search that is tried again -/

/-- A tool that reads casefiles, and tries again twice. -/
def seeker : Tool := .forMethod .getCasefile "seek_casefile_tool" "casefile" { maxRetries := 2 }

/-- A call for a casefile that is not there. -/
def seeking : ToolCall where
  catalog := { methods := .replace .empty .getCasefile, tools := .replace .empty seeker }
  quota := {}
  name := "seek_casefile_tool"
  raw := .obj [("casefile_id", .str "cf_missing")]
  options := { caller := { permissions := ["casefile:read"] } }

/-- An invoker that leaves all tools to the built-in hub. -/
def seekers : Invoker Store where
  catalog := seeking.catalog
  executor := some (Hub.inMemory {}).executeMethod

theorem seeking_opens (now : Timestamp) (g : Gate) : seeking.Opens now g := by
  refine ⟨seeker, rfl, ?_⟩
  cases g with
  | known => trivial
  | enabled => rfl
  | authenticated => intro h; cases h
  | role => exact .inl rfl
  | permissions =>
    constructor
    · intro p hp
      cases hp
    · intro m hm
      cases hm
      rfl
  | arguments => exact ⟨.ofList [("casefile_id", .str "cf_missing")], rfl⟩
  | casefile => intro h; cases h
  | real => rfl
  | quota => constructor <;> (rintro ⟨n, hn, -⟩; cases hn)

/-- Three attempts fail as one dispatch does, and the store stays empty. -/
theorem seeking_is_one_dispatch :
    ∃ r q' e', seeking.invoke seekers none ⟨{}, 0, ⟨0⟩, 0⟩ = (some (.ok r, q'), e') ∧
      r.attempts = 3 ∧ r.outcome.error?.map HubError.kind = some "not_found" ∧
      ∃ p n answer, (Hub.inMemory {}).dispatch
          (Hub.requestOf seeking.caller (Identifier.request n) OperationName.getCasefile p) none
          ⟨{}, 0, ⟨0⟩, n + 1⟩ = (some answer, e') ∧ r.outcome.Reports answer := by
  have hroute : Route.getCasefile ∈ (Route.builtin : List (Route Store)) := by
    simp [Route.builtin]
  obtain ⟨p, -, -, hexecuted⟩ :=
    execution_is_one_dispatch (h := Hub.inMemory {}) (i := seekers) (t := seeker)
      (e := ⟨{}, 0, ⟨0⟩, 0⟩) rfl Hook.builtin_silent (Route.mem_builtinTable hroute) rfl
      (fun _ hlisted hmethod => Route.eq_of_method_eq hroute hlisted hmethod) hroute rfl
      ⟨rfl, rfl⟩ rfl (c := seeking) rfl ⟨0, .refl⟩ (seeking_opens _)
  have hfits : ¬ seekers.Overflows ⟨seeker, seeking.method? seeker, p⟩ := by
    rintro ⟨haborts, -, -⟩
    cases haborts
  obtain ⟨r, q', e', hrun, -, ⟨n, answer, -, hdispatch, hreports, -⟩, -⟩ := hexecuted hfits
  have hresult : (seeking.invoke seekers none ⟨{}, 0, ⟨0⟩, 0⟩).1.map (fun result =>
      (result.1.toOption.map ToolResult.attempts,
        result.1.toOption.bind fun r => r.outcome.error?.map HubError.kind)) =
        some (some 3, some "not_found") := by decide +kernel
  rw [hrun none] at hresult
  simp only [Option.map_some, Option.some.injEq, Prod.mk.injEq, Except.toOption,
    Option.bind_some] at hresult
  exact ⟨r, q', e', hrun none, hresult.1, hresult.2, p, n, answer, hdispatch, hreports⟩

end CasefileHub
