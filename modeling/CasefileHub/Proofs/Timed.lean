import CasefileHub.Service
/-!
# What computations leave alone

Four kinds of computations that always answer, whatever their deadline:

    m.Silent            `m` leaves everything as it is
    m.Keeps             `m` leaves the state as it is
    call.Atomic         `call` leaves the state as it is if it fails
    call.Succeeds P Q   `call` does not fail from a state with `P`, and `Q` holds after it

Computations that keep the state can come before and after an atomic call, and the whole is atomic
again. A deadline stops none of them, since none waits.
-/

namespace CasefileHub

variable {σ α β : Type}

namespace Timed

theorem map_apply (f : α → β) (m : Timed σ α) (d : Option Nat) (e : Environment σ) :
    (f <$> m) d e =
      match m d e with
      | (some a, e') => (some (f a), e')
      | (none, e') => (none, e') := rfl

@[simp] theorem now_apply (d : Option Nat) (e : Environment σ) : now d e = (some e.now, e) := rfl

@[simp] theorem clock_apply (d : Option Nat) (e : Environment σ) :
    clock d e = (some e.clock, e) := rfl

@[simp] theorem stop_apply (d : Option Nat) (e : Environment σ) :
    (stop : Timed σ α) d e = (none, e) := rfl

@[simp] theorem fresh_apply (d : Option Nat) (e : Environment σ) :
    fresh d e = (some e.unused, { e with unused := e.unused + 1 }) := rfl

/-- What answers in sequence answered in each part. -/
theorem exists_of_bind_some {m : Timed σ α} {f : α → Timed σ β} {d : Option Nat}
    {e e' : Environment σ} {b : β} (h : (m >>= f) d e = (some b, e')) :
    ∃ a e₁, m d e = (some a, e₁) ∧ f a d e₁ = (some b, e') := by
  rw [bind_apply] at h
  split at h
  · rename_i a e₁ hm
    exact ⟨a, e₁, hm, h⟩
  · cases h

/-- What does not answer in sequence does not answer in one of its parts. -/
theorem exists_of_bind_none {m : Timed σ α} {f : α → Timed σ β} {d : Option Nat}
    {e e' : Environment σ} (h : (m >>= f) d e = (none, e')) :
    m d e = (none, e') ∨ ∃ a e₁, m d e = (some a, e₁) ∧ f a d e₁ = (none, e') := by
  rw [bind_apply] at h
  split at h
  · rename_i a e₁ hm
    exact .inr ⟨a, e₁, hm, h⟩
  · rename_i e₁ hm
    cases h
    exact .inl hm

/-- What is answered through a function was answered before. -/
theorem exists_of_map_some {m : Timed σ α} {f : α → β} {d : Option Nat} {e e' : Environment σ}
    {b : β} (h : (f <$> m) d e = (some b, e')) : ∃ a, m d e = (some a, e') ∧ b = f a := by
  rw [map_apply] at h
  split at h
  · rename_i a e₁ hm
    cases h
    exact ⟨a, hm, rfl⟩
  · cases h

/-- A computation that answers before any deadline answers in a limited time as well. -/
theorem withinOption_of_answers {m : Timed σ α} (h : ∀ d e, ∃ a e', m d e = (some a, e'))
    (seconds : Option Nat) (d : Option Nat) (e : Environment σ) :
    ∃ a e' inner, m inner e = (some a, e') ∧ withinOption seconds m d e = (some (some a), e') := by
  cases seconds with
  | none =>
    obtain ⟨a, e', hm⟩ := h d e
    refine ⟨a, e', d, hm, ?_⟩
    simp only [withinOption, map_apply, hm]
  | some s =>
    by_cases hc : comesFirst (e.clock + nanos s) d = true
    · obtain ⟨a, e', hm⟩ := h (some (e.clock + nanos s)) e
      refine ⟨a, e', _, hm, ?_⟩
      simp only [withinOption, within, hc, if_true, hm]
    · obtain ⟨a, e', hm⟩ := h d e
      refine ⟨a, e', _, hm, ?_⟩
      simp only [withinOption, within, if_neg hc, hm]

/-- A result in a limited time is a result of the computation. -/
theorem exists_of_withinOption_some {seconds : Option Nat} {m : Timed σ α} {d : Option Nat}
    {e e' : Environment σ} {a : α} (h : withinOption seconds m d e = (some (some a), e')) :
    ∃ inner e₁, m inner e = (some a, e₁) := by
  cases seconds with
  | none =>
    simp only [withinOption, map_apply] at h
    split at h
    · rename_i hm
      cases h
      exact ⟨d, _, hm⟩
    · cases h
  | some s =>
    simp only [withinOption, within] at h
    split at h
    · split at h
      · rename_i hm
        cases h
        exact ⟨_, _, hm⟩
      · cases h
    · split at h
      · rename_i hm
        cases h
        exact ⟨_, _, hm⟩
      · cases h

/-- Without a result at the end of its time, a computation has none. -/
theorem exists_of_withinOption_none {seconds : Option Nat} {m : Timed σ α} {d : Option Nat}
    {e e' : Environment σ} (h : withinOption seconds m d e = (some none, e')) :
    ∃ inner e₁, m inner e = (none, e₁) := by
  cases seconds with
  | none =>
    simp only [withinOption, map_apply] at h
    split at h <;> cases h
  | some s =>
    simp only [withinOption, within] at h
    split at h
    · split at h
      · cases h
      · rename_i hm
        exact ⟨_, _, hm⟩
    · split at h <;> cases h

/-- A limited time has no result only if an outer deadline passes first. -/
theorem eq_none_of_withinOption {seconds : Option Nat} {m : Timed σ α} {d : Option Nat}
    {e e' : Environment σ} (h : withinOption seconds m d e = (none, e')) :
    (m d e).1 = none ∧ (d = none → seconds = none) := by
  cases seconds with
  | none =>
    simp only [withinOption, map_apply] at h
    split at h
    · cases h
    · rename_i hm
      exact ⟨by rw [hm], fun _ => rfl⟩
  | some s =>
    simp only [withinOption, within] at h
    split at h
    · split at h <;> cases h
    · rename_i hfirst
      split at h
      · cases h
      · rename_i hm
        refine ⟨by rw [hm], fun hd => ?_⟩
        rw [hd] at hfirst
        exact absurd rfl hfirst

/-! ## Computations that keep the state -/

/-- The computation answers, whatever its deadline, and leaves the state as it is. -/
def Keeps (m : Timed σ α) : Prop :=
  ∀ d e, ∃ a e', m d e = (some a, e') ∧ e'.state = e.state

theorem keeps_pure (a : α) : (pure a : Timed σ α).Keeps := fun _ e => ⟨a, e, rfl, rfl⟩

theorem keeps_step {f : Environment σ → α × Environment σ} (h : ∀ e, (f e).2.state = e.state) :
    (step f).Keeps := fun _ e => ⟨(f e).1, (f e).2, rfl, h e⟩

theorem Keeps.bind {m : Timed σ α} {f : α → Timed σ β} (hm : m.Keeps) (hf : ∀ a, (f a).Keeps) :
    (m >>= f).Keeps := by
  intro d e
  obtain ⟨a, e₁, h₁, s₁⟩ := hm d e
  obtain ⟨b, e₂, h₂, s₂⟩ := hf a d e₁
  refine ⟨b, e₂, ?_, s₂.trans s₁⟩
  rw [bind_apply, h₁]
  exact h₂

/-! ## Silent computations -/

/-- The computation answers, whatever its deadline, and leaves everything as it is. -/
def Silent (m : Timed σ α) : Prop := ∀ d e, ∃ a, m d e = (some a, e)

theorem silent_pure (a : α) : (pure a : Timed σ α).Silent := fun _ _ => ⟨a, rfl⟩

theorem Silent.bind {m : Timed σ α} {f : α → Timed σ β} (hm : m.Silent) (hf : ∀ a, (f a).Silent) :
    (m >>= f).Silent := by
  intro d e
  obtain ⟨a, ha⟩ := hm d e
  obtain ⟨b, hb⟩ := hf a d e
  refine ⟨b, ?_⟩
  rw [bind_apply, ha]
  exact hb

theorem Silent.keeps {m : Timed σ α} (hm : m.Silent) : m.Keeps := by
  intro d e
  obtain ⟨a, ha⟩ := hm d e
  exact ⟨a, e, ha, rfl⟩

end Timed

/-! ## Calls of services -/

namespace ServiceCall

theorem run_bind_apply (x : ServiceCall σ α) (f : α → ServiceCall σ β) (d : Option Nat)
    (e : Environment σ) :
    (x >>= f).run d e =
      match x.run d e with
      | (some (.ok a), e') => (f a).run d e'
      | (some (.error err), e') => (some (.error err), e')
      | (none, e') => (none, e') := by
  rw [ExceptT.run_bind, Timed.bind_apply]
  rcases x.run d e with ⟨_ | _ | _, _⟩ <;> rfl

/-- A result goes through a function if it is no error. -/
theorem run_map_of_run {call : ServiceCall σ α} {d : Option Nat} {e e' : Environment σ}
    {result : Except ServiceError α} (h : call.run d e = (some result, e')) (f : α → β) :
    (f <$> call).run d e = (some (result.map f), e') := by
  rw [ExceptT.run_map, Timed.map_apply, h]

theorem exists_of_run_map {call : ServiceCall σ α} {f : α → β} {d : Option Nat}
    {e e' : Environment σ} {result : Except ServiceError β}
    (h : (f <$> call).run d e = (some result, e')) :
    ∃ r, call.run d e = (some r, e') ∧ result = r.map f := by
  rw [ExceptT.run_map] at h
  exact Timed.exists_of_map_some h

/-- The call answers, whatever its deadline, and leaves the state as it is if it fails. -/
def Atomic (call : ServiceCall σ α) : Prop :=
  ∀ d e, ∃ r e', call.run d e = (some r, e') ∧ ∀ err, r = .error err → e'.state = e.state

theorem Atomic.map {call : ServiceCall σ α} (h : call.Atomic) (f : α → β) :
    (f <$> call).Atomic := by
  intro d e
  obtain ⟨r, e', hr, hs⟩ := h d e
  refine ⟨r.map f, e', run_map_of_run hr f, ?_⟩
  intro err herr
  cases r with
  | ok a => cases herr
  | error err' => exact hs err' rfl

/-- A computation that keeps the state may come first. -/
theorem Atomic.lift_bind {m : Timed σ α} {f : α → ServiceCall σ β} (hm : m.Keeps)
    (hf : ∀ a, (f a).Atomic) : (ExceptT.lift m >>= f : ServiceCall σ β).Atomic := by
  intro d e
  obtain ⟨a, e₁, h₁, s₁⟩ := hm d e
  obtain ⟨r, e₂, h₂, s₂⟩ := hf a d e₁
  refine ⟨r, e₂, ?_, fun err herr => (s₂ err herr).trans s₁⟩
  rw [run_bind_apply, ExceptT.run_lift, Timed.map_apply, h₁]
  exact h₂

/-- From a state with `P` the call succeeds, whatever its deadline, with a result and a state
that have `Q`. -/
def Succeeds (call : ServiceCall σ α) (P : σ → Prop) (Q : α → σ → Prop) : Prop :=
  ∀ d e, P e.state → ∃ a e', call.run d e = (some (.ok a), e') ∧ Q a e'.state

theorem succeeds_pure {P : σ → Prop} {Q : α → σ → Prop} {a : α} (h : ∀ s, P s → Q a s) :
    (pure a : ServiceCall σ α).Succeeds P Q :=
  fun _ e hp => ⟨a, e, rfl, h e.state hp⟩

theorem Succeeds.bind {x : ServiceCall σ α} {f : α → ServiceCall σ β} {P : σ → Prop}
    {Q : α → σ → Prop} {R : β → σ → Prop} (hx : x.Succeeds P Q)
    (hf : ∀ a, (f a).Succeeds (Q a) R) : (x >>= f).Succeeds P R := by
  intro d e hp
  obtain ⟨a, e₁, h₁, hq⟩ := hx d e hp
  obtain ⟨b, e₂, h₂, hr⟩ := hf a d e₁ hq
  refine ⟨b, e₂, ?_, hr⟩
  rw [run_bind_apply, h₁]
  exact h₂

/-- A fact before the call that is not about the state. -/
theorem Succeeds.of_fact {p : Prop} {call : ServiceCall σ α} {P : σ → Prop} {Q : α → σ → Prop}
    (h : p → call.Succeeds P Q) : call.Succeeds (fun s => p ∧ P s) Q :=
  fun d e hp => h hp.1 d e hp.2

/-- A call that never fails is atomic. -/
theorem Succeeds.atomic {call : ServiceCall σ α} {Q : α → σ → Prop}
    (h : call.Succeeds (fun _ => True) Q) : call.Atomic := by
  intro d e
  obtain ⟨a, e', hrun, -⟩ := h d e trivial
  exact ⟨.ok a, e', hrun, fun err herr => by cases herr⟩

end ServiceCall

end CasefileHub
