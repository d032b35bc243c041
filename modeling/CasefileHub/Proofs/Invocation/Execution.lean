import CasefileHub.Invocation
import CasefileHub.Proofs.Timed
/-!
# Executions

An attempt is followed by the others if it is a failed execution, and is the last otherwise, so an
execution makes at least one. Where an attempt has a time limit of its own and there is no deadline
around it, the attempt answers, whatever it calls, and so does the execution, unless the number of
attempts allowed overflows in a build that aborts then.

    attempting … = (n, r) → n = 1, or the first failed and the others come to (n - 1, r)
                                                                            (attempting_cases)
    i.execute a options d e = (some r, e') → r reports attempts within their limit
                                                                            (exists_limit_of_execute)
    i.Overflows a → i.execute a options d e = (none, e)                     (execute_of_overflows)
-/

namespace CasefileHub

variable {σ : Type}

/-! ## Attempts -/

section
variable {once : Timed σ (Except HubError Json)} {further n : Nat} {r : Except HubError Json}
  {d : Option Nat} {e e₁ e' : Environment σ}

theorem attempting_zero (hrun : once d e = (some r, e')) :
    attempting once 0 d e = (some (1, r), e') := by
  rw [attempting, Timed.bind_apply, hrun]
  rfl

/-- No attempt follows one that is no failed execution. -/
theorem attempting_of_settled (hrun : once d e = (some r, e'))
    (hr : ∀ kind text, r ≠ .error (.execution kind text)) :
    attempting once further d e = (some (1, r), e') := by
  cases further with
  | zero => exact attempting_zero hrun
  | succ further =>
    rw [attempting, Timed.bind_apply, hrun]
    cases r with
    | ok v => rfl
    | error err =>
      cases err with
      | execution kind text => exact absurd rfl (hr kind text)
      | _ => rfl

/-- A failed execution is followed by the other attempts. -/
theorem attempting_of_execution {kind text : String}
    (hrun : once d e = (some (.error (.execution kind text)), e₁))
    (hrest : attempting once further d e₁ = (some (n, r), e')) :
    attempting once (further + 1) d e = (some (n + 1, r), e') := by
  rw [attempting, Timed.bind_apply, hrun]
  show (attempting once further >>= fun found => pure (found.1 + 1, found.2)) d e₁ = _
  rw [Timed.bind_apply, hrest]
  rfl

/-- The first attempt is the last, or it is a failed execution that the others follow. -/
theorem attempting_cases (h : attempting once further d e = (some (n, r), e')) :
    (n = 1 ∧ once d e = (some r, e')) ∨
      ∃ kind text e₁ further' n', further = further' + 1 ∧ n = n' + 1 ∧
        once d e = (some (.error (.execution kind text)), e₁) ∧
        attempting once further' d e₁ = (some (n', r), e') := by
  cases further with
  | zero =>
    obtain ⟨r', e₁, hrun, hrest⟩ := Timed.exists_of_bind_some h
    cases hrest
    exact .inl ⟨rfl, hrun⟩
  | succ further =>
    obtain ⟨r', e₁, hrun, hrest⟩ := Timed.exists_of_bind_some h
    by_cases hagain : ∃ kind text, r' = .error (.execution kind text)
    · obtain ⟨kind, text, rfl⟩ := hagain
      obtain ⟨⟨n', r''⟩, e₂, hmore, hlast⟩ := Timed.exists_of_bind_some hrest
      cases hlast
      exact .inr ⟨kind, text, e₁, further, n', rfl, rfl, hrun, hmore⟩
    · have hsettled : attempting once (further + 1) d e = (some (1, r'), e₁) :=
        attempting_of_settled hrun fun kind text heq => hagain ⟨kind, text, heq⟩
      rw [h] at hsettled
      cases hsettled
      exact .inl ⟨rfl, hrun⟩

theorem attempting_pos (h : attempting once further d e = (some (n, r), e')) : 1 ≤ n := by
  rcases attempting_cases h with ⟨rfl, -⟩ | ⟨_, _, _, _, n', -, rfl, -⟩
  · exact Nat.le_refl 1
  · exact Nat.le_add_left 1 n'

/-- Attempts answer if each one does. -/
theorem attempting_answers (h : ∀ e, ∃ r e', once d e = (some r, e')) (further : Nat)
    (e : Environment σ) : ∃ n r e', attempting once further d e = (some (n, r), e') := by
  induction further generalizing e with
  | zero =>
    obtain ⟨r, e', hr⟩ := h e
    exact ⟨1, r, e', attempting_zero hr⟩
  | succ further ih =>
    obtain ⟨r, e₁, hr⟩ := h e
    by_cases hagain : ∃ kind text, r = .error (.execution kind text)
    · obtain ⟨kind, text, rfl⟩ := hagain
      obtain ⟨n, r', e', hn⟩ := ih e₁
      exact ⟨n + 1, r', e', attempting_of_execution hr hn⟩
    · exact ⟨1, r, e₁, attempting_of_settled hr fun kind text heq => hagain ⟨kind, text, heq⟩⟩

/-- The result is that of the last attempt. -/
theorem exists_last_of_attempting (h : attempting once further d e = (some (n, r), e')) :
    ∃ e₁ e₂, once d e₁ = (some r, e₂) := by
  induction further generalizing e n with
  | zero =>
    rcases attempting_cases h with ⟨-, hrun⟩ | ⟨_, _, _, _, _, hzero, -⟩
    · exact ⟨e, e', hrun⟩
    · cases hzero
  | succ further ih =>
    rcases attempting_cases h with ⟨-, hrun⟩ | ⟨_, _, _, _, _, hsucc, -, -, hrest⟩
    · exact ⟨e, e', hrun⟩
    · cases hsucc
      exact ih hrest

end

namespace Invoker

/-- An attempt answers what the work answers, or that its time is over. -/
theorem attempt_cases {i : Invoker σ} {a : Admission} {options : InvokeOptions} {d : Option Nat}
    {e e' : Environment σ} {r : Except HubError Json}
    (h : i.attempt a options d e = (some r, e')) :
    (∃ inner e₁, i.work a options.caller inner e = (some r, e₁)) ∨
      ((∃ inner e₁, i.work a options.caller inner e = (none, e₁)) ∧
        ∃ s, r = .error (timeout a.tool.name s)) := by
  unfold attempt at h
  rw [Timed.bind_apply] at h
  split at h
  · rename_i answer e₁ hlimit
    cases answer with
    | some r' =>
      left
      cases h
      exact Timed.exists_of_withinOption_some hlimit
    | none =>
      right
      cases h
      exact ⟨Timed.exists_of_withinOption_none hlimit, _, rfl⟩
  · cases h

/-- An attempt with a time limit of its own answers, if nothing else limits it. -/
theorem attempt_answers (i : Invoker σ) {a : Admission} {options : InvokeOptions}
    (h : (stricter options.timeoutSeconds a.tool.rules.timeoutSeconds).isSome)
    (e : Environment σ) : ∃ r e', i.attempt a options none e = (some r, e') := by
  obtain ⟨s, hs⟩ := Option.isSome_iff_exists.1 h
  unfold attempt
  rw [hs, Timed.bind_apply]
  simp only [Timed.withinOption, Timed.within, Timed.comesFirst, if_true]
  rcases i.work a options.caller (some (e.clock + Timed.nanos s)) e with ⟨_ | r, e'⟩
  · exact ⟨_, _, rfl⟩
  · exact ⟨r, e', rfl⟩

/-! ## The limit of the attempts -/

/-- The number of attempts allowed is more than 32 bits hold, and the build aborts then. -/
structure Overflows (i : Invoker σ) (a : Admission) : Prop where
  aborts : i.overflow = .aborts
  retryable : i.isRetryable a = true
  most : a.tool.rules.maxRetries.toNat + 1 = UInt32.size

theorem maxAttempts?_eq_none_iff (i : Invoker σ) (a : Admission) :
    i.maxAttempts? a = none ↔ i.Overflows a := by
  unfold maxAttempts? Overflow.succ?
  constructor
  · intro h
    split at h
    · rename_i hretryable
      split at h
      · rename_i hboth
        exact ⟨hboth.1, hretryable, hboth.2⟩
      · cases h
    · cases h
  · rintro ⟨haborts, hretryable, hmost⟩
    rw [if_pos hretryable, if_pos ⟨haborts, hmost⟩]

theorem exists_limit_of_not_overflows {i : Invoker σ} {a : Admission} (h : ¬ i.Overflows a) :
    ∃ limit, i.maxAttempts? a = some limit :=
  Option.ne_none_iff_exists'.1 (mt (maxAttempts?_eq_none_iff i a).1 h)

/-! ## Executions -/

section
variable {i : Invoker σ} {a : Admission} {options : InvokeOptions} {d : Option Nat}
  {e e' : Environment σ} {r : ToolResult}

/-- An execution whose limit overflows is aborted before the first attempt. -/
theorem execute_of_overflows (h : i.Overflows a) : i.execute a options d e = (none, e) := by
  unfold execute
  rw [(maxAttempts?_eq_none_iff i a).2 h]
  rfl

/-- An execution reports what its attempts have come to. -/
theorem execute_of_attempting {limit : UInt32} {n : Nat} {answer : Except HubError Json}
    (hlimit : i.maxAttempts? a = some limit)
    (hn : attempting (i.attempt a options) (limit.toNat - 1) d e = (some (n, answer), e')) :
    i.execute a options d e = (some ⟨a.tool.name, .ofResult answer, a.parameters,
      (e'.clock - e.clock) / 1000000, n, a.warnings⟩, e') := by
  unfold execute
  simp only [hlimit, executeUpTo, Timed.bind_apply, Timed.clock_apply, hn]
  rfl

/-- What an execution answers is a report of attempts within their limit. -/
theorem exists_limit_of_execute (h : i.execute a options d e = (some r, e')) :
    ∃ limit answer, i.maxAttempts? a = some limit ∧
      attempting (i.attempt a options) (limit.toNat - 1) d e =
        (some (r.attempts, answer), e') ∧
      r = ⟨a.tool.name, .ofResult answer, a.parameters, (e'.clock - e.clock) / 1000000,
        r.attempts, a.warnings⟩ := by
  unfold execute at h
  cases hlimit : i.maxAttempts? a with
  | none =>
    rw [hlimit] at h
    cases h
  | some limit =>
    simp only [hlimit, executeUpTo, Timed.bind_apply, Timed.clock_apply] at h
    split at h
    · rename_i hn
      cases h
      exact ⟨limit, _, rfl, hn, rfl⟩
    · cases h

theorem attempts_of_execute (h : i.execute a options d e = (some r, e')) : 1 ≤ r.attempts := by
  obtain ⟨limit, answer, -, hn, -⟩ := exists_limit_of_execute h
  exact attempting_pos hn

/-- What an execution answers is the answer of an attempt. -/
theorem exists_attempt_of_execute (h : i.execute a options d e = (some r, e')) :
    ∃ answer e₁ e₂, i.attempt a options d e₁ = (some answer, e₂) ∧
      r.outcome = .ofResult answer := by
  obtain ⟨limit, answer, -, hn, hr⟩ := exists_limit_of_execute h
  obtain ⟨e₁, e₂, hlast⟩ := exists_last_of_attempting hn
  exact ⟨answer, e₁, e₂, hlast, by rw [hr]⟩

/-- An execution within its limit answers if each attempt does. -/
theorem execute_answers_of_attempt (hfits : ¬ i.Overflows a)
    (h : ∀ e, ∃ r e', i.attempt a options d e = (some r, e')) (e : Environment σ) :
    ∃ r e', i.execute a options d e = (some r, e') := by
  obtain ⟨limit, hlimit⟩ := exists_limit_of_not_overflows hfits
  obtain ⟨n, answer, e', hn⟩ := attempting_answers h (limit.toNat - 1) e
  exact ⟨_, e', execute_of_attempting hlimit hn⟩

end

end Invoker

end CasefileHub
