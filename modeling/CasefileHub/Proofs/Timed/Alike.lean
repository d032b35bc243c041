import CasefileHub.Proofs.Timed
/-!
# Two runs side by side

Two computations are *alike* for a relation on states when, started under one deadline in related
states at the same times and with the same unused numbers, they end with the same result, or both
without one, and again so related. Computations that are alike stay so under everything that puts
computations together:

    m.Alike R m' → (∀ a, (f a).Alike R (f' a)) → (m >>= f).Alike R (m' >>= f')     (Alike.bind)
    m.Alike R m' → (withinOption s m).Alike R (withinOption s m')                (Alike.withinOption)
-/

namespace CasefileHub

variable {σ τ α β : Type} {R : σ → τ → Prop}

/-- Environments that differ at most in states that are related. -/
structure Environment.Alike (R : σ → τ → Prop) (e : Environment σ) (e' : Environment τ) : Prop where
  state : R e.state e'.state
  clock : e.clock = e'.clock
  now : e.now = e'.now
  unused : e.unused = e'.unused

theorem Environment.Alike.refl {R : σ → σ → Prop} (h : ∀ s, R s s) (e : Environment σ) :
    e.Alike R e := ⟨h e.state, rfl, rfl, rfl⟩

namespace Timed

/-- The same result and related environments, from any related environments. -/
def Alike (R : σ → τ → Prop) (m : Timed σ α) (m' : Timed τ α) : Prop :=
  ∀ d e e', e.Alike R e' → (m d e).1 = (m' d e').1 ∧ (m d e).2.Alike R (m' d e').2

theorem alike_pure (a : α) : Alike R (pure a) (pure a) := fun _ _ _ h => ⟨rfl, h⟩

/-- Alike runs answer both or not at all. -/
theorem Alike.cases {m : Timed σ α} {m' : Timed τ α} (hm : m.Alike R m') (d : Option Nat)
    {e : Environment σ} {e' : Environment τ} (he : e.Alike R e') :
    ∃ e₁ e₁', e₁.Alike R e₁' ∧ (m d e = (none, e₁) ∧ m' d e' = (none, e₁') ∨
      ∃ a, m d e = (some a, e₁) ∧ m' d e' = (some a, e₁')) := by
  obtain ⟨hresult, henv⟩ := hm d e e' he
  refine ⟨_, _, henv, ?_⟩
  cases hmd : (m d e).1 with
  | none => exact .inl ⟨Prod.ext hmd rfl, Prod.ext (hresult.symm.trans hmd) rfl⟩
  | some a => exact .inr ⟨a, Prod.ext hmd rfl, Prod.ext (hresult.symm.trans hmd) rfl⟩

theorem Alike.bind {m : Timed σ α} {m' : Timed τ α} {f : α → Timed σ β} {f' : α → Timed τ β}
    (hm : m.Alike R m') (hf : ∀ a, (f a).Alike R (f' a)) : (m >>= f).Alike R (m' >>= f') := by
  intro d e e' he
  rw [bind_apply, bind_apply]
  obtain ⟨e₁, e₁', henv, ⟨hn, hn'⟩ | ⟨a, ha, ha'⟩⟩ := hm.cases d he
  · rw [hn, hn']
    exact ⟨rfl, henv⟩
  · rw [ha, ha']
    exact hf a d e₁ e₁' henv

theorem Alike.map {m : Timed σ α} {m' : Timed τ α} (hm : m.Alike R m') (f : α → β) :
    (f <$> m).Alike R (f <$> m') :=
  hm.bind fun a => alike_pure (f a)

theorem alike_fresh : Alike R (fresh : Timed σ Nat) fresh := fun _ _ _ h =>
  ⟨congrArg some h.unused, h.state, h.clock, h.now, congrArg (· + 1) h.unused⟩

theorem Alike.within {m : Timed σ α} {m' : Timed τ α} (hm : m.Alike R m') (seconds : Nat) :
    (Timed.within seconds m).Alike R (Timed.within seconds m') := by
  intro d e e' he
  unfold Timed.within
  simp only [he.clock]
  split
  · obtain ⟨e₁, e₁', henv, ⟨hn, hn'⟩ | ⟨a, ha, ha'⟩⟩ := hm.cases (some (e'.clock + nanos seconds)) he
    · rw [hn, hn']
      exact ⟨rfl, henv.state, rfl, henv.now, henv.unused⟩
    · rw [ha, ha']
      exact ⟨rfl, henv⟩
  · obtain ⟨e₁, e₁', henv, ⟨hn, hn'⟩ | ⟨a, ha, ha'⟩⟩ := hm.cases d he
    · rw [hn, hn']
      exact ⟨rfl, henv⟩
    · rw [ha, ha']
      exact ⟨rfl, henv⟩

theorem Alike.withinOption {m : Timed σ α} {m' : Timed τ α} (hm : m.Alike R m')
    (seconds : Option Nat) :
    (Timed.withinOption seconds m).Alike R (Timed.withinOption seconds m') := by
  cases seconds with
  | none => exact hm.map some
  | some s => exact hm.within s

end Timed

namespace ServiceCall

/-- Calls whose runs are alike. -/
def Alike (R : σ → τ → Prop) (call : ServiceCall σ α) (call' : ServiceCall τ α) : Prop :=
  Timed.Alike R call.run call'.run

theorem alike_pure (a : α) : Alike R (pure a : ServiceCall σ α) (pure a : ServiceCall τ α) :=
  Timed.alike_pure (Except.ok a)

theorem Alike.bind {x : ServiceCall σ α} {x' : ServiceCall τ α} {f : α → ServiceCall σ β}
    {f' : α → ServiceCall τ β} (hx : x.Alike R x') (hf : ∀ a, (f a).Alike R (f' a)) :
    (x >>= f).Alike R (x' >>= f') := by
  unfold Alike
  rw [ExceptT.run_bind, ExceptT.run_bind]
  refine Timed.Alike.bind hx fun r => ?_
  cases r with
  | ok a => exact hf a
  | error err => exact Timed.alike_pure _

theorem Alike.map {x : ServiceCall σ α} {x' : ServiceCall τ α} (hx : x.Alike R x') (f : α → β) :
    (f <$> x).Alike R (f <$> x') := by
  unfold Alike
  rw [ExceptT.run_map, ExceptT.run_map]
  exact Timed.Alike.map hx _

theorem alike_lift {m : Timed σ α} {m' : Timed τ α} (hm : m.Alike R m') :
    Alike R (ExceptT.lift m : ServiceCall σ α) (ExceptT.lift m') := by
  unfold Alike
  rw [ExceptT.run_lift, ExceptT.run_lift]
  exact hm.map _

end ServiceCall

end CasefileHub
