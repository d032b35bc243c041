import CasefileHub.Proofs.Timed
/-!
# What computations can do to an environment

A computation follows a relation if it takes every environment to a related one, whatever the
deadline and also where the deadline stops it in the middle. If the relation is a *course*, that is,
transitive and open to the passing of time and the using up of numbers, then what is put together
from computations that follow it follows it again:

    m.Follows R → (∀ a, (f a).Follows R) → (m >>= f).Follows R                 (Follows.bind)
    m.Follows R → (withinOption s m).Follows R                                 (Follows.withinOption)
-/

namespace CasefileHub

variable {σ τ α β : Type}

/-- A relation of environments before and after that any number of steps may make up. -/
structure Environment.Course (R : Environment σ → Environment σ → Prop) : Prop where
  trans : ∀ {e e₁ e₂}, R e e₁ → R e₁ e₂ → R e e₂
  /-- Time may pass and numbers may be used up. -/
  idle : ∀ {e e' : Environment σ}, e'.state = e.state → e.unused ≤ e'.unused → R e e'

variable {R : Environment σ → Environment σ → Prop}

theorem Environment.Course.refl (hR : Course R) (e : Environment σ) : R e e :=
  hR.idle rfl (Nat.le_refl _)

namespace Timed

/-- The environment that is left behind is related to the one before, however the computation
ends. -/
def Follows (R : Environment σ → Environment σ → Prop) (m : Timed σ α) : Prop :=
  ∀ d e, R e (m d e).2

variable (hR : Environment.Course R)
include hR

theorem follows_pure (a : α) : (pure a : Timed σ α).Follows R := fun _ e => hR.refl e

theorem follows_fresh : (fresh : Timed σ Nat).Follows R :=
  fun _ _ => hR.idle rfl (Nat.le_succ _)

theorem follows_sleep (time : Nat) : (sleep time : Timed σ Unit).Follows R := by
  intro d e
  unfold sleep
  split
  · split
    · exact hR.idle rfl (Nat.le_refl _)
    · exact hR.idle rfl (Nat.le_refl _)
  · exact hR.idle rfl (Nat.le_refl _)

theorem Follows.bind {m : Timed σ α} {f : α → Timed σ β} (hm : m.Follows R)
    (hf : ∀ a, (f a).Follows R) : (m >>= f).Follows R := by
  intro d e
  have hfirst := hm d e
  rw [bind_apply]
  rcases hrun : m d e with ⟨_ | a, e₁⟩
  · rw [hrun] at hfirst
    exact hfirst
  · rw [hrun] at hfirst
    exact hR.trans hfirst (hf a d e₁)

theorem Follows.map {m : Timed σ α} (hm : m.Follows R) (f : α → β) : (f <$> m).Follows R :=
  hm.bind hR fun a => follows_pure hR (f a)

/-- The clock is set to the end of the time that a computation has, if it is given up. -/
theorem Follows.within {m : Timed σ α} (hm : m.Follows R) (seconds : Nat) :
    (Timed.within seconds m).Follows R := by
  intro d e
  unfold Timed.within
  simp only
  split
  · have hinner := hm (some (e.clock + nanos seconds)) e
    rcases hrun : m (some (e.clock + nanos seconds)) e with ⟨_ | a, e₁⟩
    · rw [hrun] at hinner
      exact hR.trans hinner (hR.idle rfl (Nat.le_refl _))
    · rw [hrun] at hinner
      exact hinner
  · have houter := hm d e
    rcases hrun : m d e with ⟨_ | a, e₁⟩
    · rw [hrun] at houter
      exact houter
    · rw [hrun] at houter
      exact houter

theorem Follows.withinOption {m : Timed σ α} (hm : m.Follows R) (seconds : Option Nat) :
    (Timed.withinOption seconds m).Follows R := by
  cases seconds with
  | none => exact hm.map hR some
  | some s => exact hm.within hR s

end Timed

/-! ## Calls of services -/

namespace ServiceCall

/-- The run of the call follows a relation. -/
def Follows (R : Environment σ → Environment σ → Prop) (call : ServiceCall σ α) : Prop :=
  Timed.Follows R call.run

/-- What becomes of the answer does not matter. -/
theorem follows_map_iff {call : ServiceCall σ α} {f : α → β} :
    (f <$> call).Follows R ↔ call.Follows R := by
  have hleft : ∀ d e, ((f <$> call).run d e).2 = (call.run d e).2 := by
    intro d e
    rw [ExceptT.run_map, Timed.map_apply]
    rcases call.run d e with ⟨_ | a, e₁⟩ <;> rfl
  simp only [Follows, Timed.Follows, hleft]

variable (hR : Environment.Course R)
include hR

theorem follows_pure (a : α) : (pure a : ServiceCall σ α).Follows R :=
  Timed.follows_pure hR (Except.ok a)

theorem follows_throw (err : ServiceError) : (throw err : ServiceCall σ α).Follows R :=
  Timed.follows_pure hR (Except.error err)

theorem follows_lift {m : Timed σ α} (hm : m.Follows R) :
    (ExceptT.lift m : ServiceCall σ α).Follows R :=
  hm.map hR Except.ok

theorem Follows.bind {x : ServiceCall σ α} {f : α → ServiceCall σ β} (hx : x.Follows R)
    (hf : ∀ a, (f a).Follows R) : (x >>= f).Follows R := by
  refine Timed.Follows.bind hR hx fun r => ?_
  cases r with
  | ok a => exact hf a
  | error err => exact Timed.follows_pure hR _

end ServiceCall

/-! ## Services -/

/-- Every call of the services follows a relation. -/
structure Services.Follow (R : Environment σ → Environment σ → Prop) (s : Services σ) : Prop where
  session? : ∀ id, (s.session? id).Follows R
  casefile? : ∀ id, (s.casefile? id).Follows R
  createCasefile : ∀ r, (s.createCasefile r).Follows R
  getCasefile : ∀ r, (s.getCasefile r).Follows R
  addSession : ∀ r, (s.addSession r).Follows R
  createSession : ∀ r, (s.createSession r).Follows R
  processChat : ∀ r, (s.processChat r).Follows R

end CasefileHub
