import CasefileHub.Proofs.Timed
/-!
# Computations at once

A computation is prompt if it answers the same under every deadline, so that a limit to its time is
no limit. It is clean if it is prompt and a failure has done nothing but use up numbers, so that it
can be repeated as if it had not been tried:

    the same answer under every deadline is the answer in a limited time       (withinOption_apply)
    call.run.Clean → (f <$> call).run.Clean                                        (Clean.map_call)
-/

namespace CasefileHub

variable {σ α β ε : Type}

/-- Nothing is different but the numbers that have been used up. -/
def Environment.Wastes (e e' : Environment σ) : Prop :=
  ∃ n, e.unused ≤ n ∧ e' = { e with unused := n }

namespace Environment.Wastes

theorem refl (e : Environment σ) : e.Wastes e := ⟨e.unused, Nat.le_refl _, rfl⟩

theorem numbers (e : Environment σ) (k : Nat) : e.Wastes { e with unused := e.unused + k } :=
  ⟨e.unused + k, Nat.le_add_right _ _, rfl⟩

theorem trans {e e' e'' : Environment σ} (h : e.Wastes e') (h' : e'.Wastes e'') : e.Wastes e'' := by
  obtain ⟨n, hn, rfl⟩ := h
  obtain ⟨m, hm, rfl⟩ := h'
  exact ⟨m, Nat.le_trans hn hm, rfl⟩

theorem state {e e' : Environment σ} (h : e.Wastes e') : e'.state = e.state := by
  obtain ⟨n, -, rfl⟩ := h
  rfl

end Environment.Wastes

namespace Timed

/-! ## Prompt computations -/

/-- The computation answers, and no deadline makes a difference. -/
def Prompt (m : Timed σ α) : Prop := ∀ e, ∃ a e', ∀ d, m d e = (some a, e')

theorem prompt_pure (a : α) : (pure a : Timed σ α).Prompt := fun e => ⟨a, e, fun _ => rfl⟩

theorem Prompt.bind {m : Timed σ α} {f : α → Timed σ β} (hm : m.Prompt) (hf : ∀ a, (f a).Prompt) :
    (m >>= f).Prompt := by
  intro e
  obtain ⟨a, e₁, ha⟩ := hm e
  obtain ⟨b, e₂, hb⟩ := hf a e₁
  refine ⟨b, e₂, fun d => ?_⟩
  rw [bind_apply, ha]
  exact hb d

theorem Prompt.map {m : Timed σ α} (hm : m.Prompt) (f : α → β) : (f <$> m).Prompt :=
  hm.bind fun a => prompt_pure (f a)

/-- What answers the same under every deadline answers so in a limited time. -/
theorem withinOption_apply {m : Timed σ α} {e e' : Environment σ} {a : α}
    (h : ∀ d, m d e = (some a, e')) (seconds d : Option Nat) :
    withinOption seconds m d e = (some (some a), e') := by
  cases seconds with
  | none => rw [withinOption, map_apply, h d]
  | some s =>
    simp only [withinOption, within, h]
    split <;> rfl

/-! ## Clean computations -/

/-- The computation is prompt, and if it fails it has done nothing but use up numbers. -/
structure Clean (m : Timed σ (Except ε α)) : Prop where
  prompt : m.Prompt
  wastes : ∀ {d e err e'}, m d e = (some (.error err), e') → e.Wastes e'

theorem Clean.map_call {call : ServiceCall σ α} (h : call.run.Clean) (f : α → β) :
    (f <$> call).run.Clean where
  prompt := by
    rw [ExceptT.run_map]
    exact h.prompt.map _
  wastes := by
    intro d e err e' hrun
    obtain ⟨r, hr, herr⟩ := ServiceCall.exists_of_run_map hrun
    cases r with
    | ok a => cases herr
    | error err' => exact h.wastes hr

end Timed

end CasefileHub
