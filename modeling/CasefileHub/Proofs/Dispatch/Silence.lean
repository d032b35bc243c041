import CasefileHub.Proofs.Dispatch.Answer
import CasefileHub.Proofs.Service
/-!
# What a dispatch does in silence

What each hook of a registry leaves alone, a run of any of them leaves alone. Repositories that are
silent make the context silent, and hooks that are silent the stages. Then a request acts through
its operation only, whose outcome is the response but for the metadata:

    services.Silent → (prepare services r policy defaults).Silent                (prepare_silent)
    every hook of `hooks` keeps a view of the environment → so does runAll hooks     (runAll_view)
    h.perform r call answers what the outcome of the call is, with some metadata
                                                                            (perform_of_silent)
-/

namespace CasefileHub

variable {σ : Type}

/-! ## Context -/

namespace DispatchContext

theorem found_silent {α : Type} {call : ServiceCall σ (Option α)} (h : call.run.Silent) :
    (found call).Silent := by
  refine h.bind fun answer => ?_
  cases answer with
  | ok a => exact Timed.silent_pure a
  | error err => exact Timed.silent_pure none

theorem fetch_silent {α : Type} {repository : String → ServiceCall σ (Option α)}
    (h : ∀ id, (repository id).run.Silent) (id : Option String) : (fetch repository id).Silent := by
  cases id with
  | none => exact Timed.silent_pure none
  | some id => exact found_silent (h id)

theorem prepare_silent {services : Services σ} (h : services.Silent) (r : Request Json)
    (policy : String) (defaults : PolicyDefaults) : (prepare services r policy defaults).Silent :=
  (fetch_silent h.session? _).bind fun _ =>
    (fetch_silent h.casefile? _).bind fun _ => Timed.silent_pure _

end DispatchContext

/-! ## Hooks -/

namespace Hook

variable {β : Type} {hooks : Registry (Hook σ)}

theorem get?_builtin (name : String) :
    (builtin : Registry (Hook σ)).get? name =
      if name = "audit" then some audit else if name = "metrics" then some metrics else none := by
  unfold builtin
  rw [Registry.get?_replace, Registry.get?_replace]
  rfl

/-- A view of the environment that no hook changes is not changed by a run of them. -/
theorem runAll_view (view : Environment σ → β)
    (h : ∀ name k, hooks.get? name = some k →
      ∀ stage response c e, view (k.run stage response c e).2 = view e)
    (stage : HookStage) (response : Option Response) (names : List String) (c : DispatchContext)
    (e : Environment σ) : view (runAll hooks stage response names c e).2 = view e := by
  unfold runAll
  induction names generalizing c e with
  | nil => rfl
  | cons name rest ih =>
    rw [List.foldl_cons]
    simp only
    cases hk : hooks.get? name with
    | none => exact ih c e
    | some k =>
      simp only
      exact (ih _ _).trans (h name k hk stage response c e)

/-- A hook that records in the context only, and leaves everything else as it is. -/
def Silent (k : Hook σ) : Prop := ∀ stage response c e, (k.run stage response c e).2 = e

/-- All hooks of a registry are silent. -/
def AllSilent (hooks : Registry (Hook σ)) : Prop :=
  ∀ name k, hooks.get? name = some k → k.Silent

theorem empty_silent : AllSilent (.empty : Registry (Hook σ)) := by
  intro name k h
  cases h

theorem builtin_silent : AllSilent (builtin : Registry (Hook σ)) := by
  intro name k h
  rw [get?_builtin] at h
  split at h
  · cases h
    exact fun _ _ _ _ => rfl
  · split at h
    · cases h
      exact fun _ _ _ _ => rfl
    · cases h

theorem runStage_silent (h : AllSilent hooks) (stage : HookStage) (response : Option Response)
    (c : DispatchContext) : (runStage hooks stage response c).Silent := by
  intro d e
  refine ⟨(runAll hooks stage response c.hooks c e).1, ?_⟩
  exact congrArg (some _, ·) (runAll_view id h stage response c.hooks c e)

end Hook

/-! ## Requests that are performed -/

namespace Hub

variable {h : Hub σ}

theorem begin_silent (hs : h.services.Silent) (hh : Hook.AllSilent h.hooks) (r : Request Json) :
    (h.begin r).Silent :=
  (DispatchContext.prepare_silent hs r _ _).bind fun c =>
    (Hook.runStage_silent hh .pre none c).bind fun _ => Timed.silent_pure _

/-- The response is that of the outcome, with some metadata. -/
theorem finish_of_silent (hh : Hook.AllSilent h.hooks) (r : Request Json) (c : DispatchContext)
    (result : Except ErrorInfo Json) (d : Option Nat) (e : Environment σ) :
    ∃ metadata, h.finish r c result d e =
      (some { Response.ofOutcome r.requestId result with metadata := metadata }, e) := by
  have hleft := Hook.runAll_view id hh .post
    (some (Response.ofOutcome r.requestId result)) c.hooks c e
  rw [finish_apply, DispatchContext.annotated_eq]
  exact ⟨_, congrArg (some _, ·) hleft⟩

/-- Nothing but the operation acts, and its outcome is the response but for the metadata. -/
theorem perform_of_silent (hs : h.services.Silent) (hh : Hook.AllSilent h.hooks)
    (r : Request Json) (call : Services σ → ServiceCall σ Json) (d : Option Nat)
    (e : Environment σ) :
    (∀ e₁, h.outcome r.operation (call h.services) d e = (none, e₁) →
      h.perform r call d e = (none, e₁)) ∧
    ∀ result e₁, h.outcome r.operation (call h.services) d e = (some result, e₁) →
      ∃ metadata, h.perform r call d e =
        (some { Response.ofOutcome r.requestId result with metadata := metadata }, e₁) := by
  obtain ⟨c, hbegin⟩ := begin_silent hs hh r d e
  have hperform : h.perform r call d e =
      (h.outcome r.operation (call h.services) >>= h.finish r c) d e := by
    unfold perform
    rw [Timed.bind_apply, hbegin]
  refine ⟨fun e₁ houtcome => ?_, fun result e₁ houtcome => ?_⟩
  · rw [hperform, Timed.bind_apply, houtcome]
  · obtain ⟨metadata, hfinish⟩ := finish_of_silent hh r c result d e₁
    refine ⟨metadata, ?_⟩
    rw [hperform, Timed.bind_apply, houtcome]
    exact hfinish

end Hub

end CasefileHub
