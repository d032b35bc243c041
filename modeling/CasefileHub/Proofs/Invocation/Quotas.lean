import CasefileHub.Proofs.Invocation.Preview
import CasefileHub.Proofs.Quota.Window
/-!
# Quotas over whole runs

One invocation after the other takes its uses from one quota. Within one period the executions of a
tool begin for the real calls that pass all other gates, up to the limit of the tool, and the others
are refused. Attempts, refusals and previews do not count, and other tools do not matter. What has
begun is executed, unless the limit of its attempts overflows or its work does not end:

    Invocations i {} log q → begunOf log name = upTo limit (eligibleOf log name)    (metered_of_run)
    … and q counts what has begun, and what can be answered is executed           (quota_law_of_run)
    Invocations i q log q' → there is a run of the invocations of one tool alone, with the same
    answers                                                                          (exists_alone)
-/

namespace CasefileHub

/-! ## Runs of invocations -/

/-- An invocation under a deadline, and its answer. Without one it has stopped in its execution. -/
structure Invoked where
  call : ToolCall
  deadline : Option Nat
  now : Timestamp
  answer : Option (Except ToolError ToolResult)

namespace Invoked

/-- The work of the tool has been attempted, and the attempts have come to a result. -/
def executed (v : Invoked) : Bool :=
  match v.answer with
  | some (.ok r) => 1 ≤ r.attempts
  | _ => false

/-- The execution has begun, and has come to a result or stopped without one. -/
def begun (v : Invoked) : Bool := v.answer.isNone || v.executed

/-- A real call that passes all gates before the quota. -/
def eligible (v : Invoked) : Bool :=
  match Admission.ofCall v.call.catalog v.call.name v.call.raw v.call.caller with
  | .ok _ => !v.call.options.dryRun
  | .error _ => false

/-- The invocation without the quota that it found. -/
def plain (v : Invoked) : Invoked := { v with call := { v.call with quota := {} } }

/-- Nothing keeps an execution of the call from its result: the limit of its attempts does not
overflow, and each attempt has a time limit and there is no deadline around them, or its work always
answers. -/
structure Answerable {σ : Type} (v : Invoked) (i : Invoker σ) : Prop where
  fits : ∀ a, Admission.ofCall v.call.catalog v.call.name v.call.raw v.call.caller = .ok a →
    ¬ i.Overflows a
  answers : (v.deadline = none ∧ ∀ t, v.call.tool? = some t →
      (stricter v.call.options.timeoutSeconds t.rules.timeoutSeconds).isSome) ∨
    ∀ a d e, ∃ r e', i.work a v.call.caller d e = (some r, e')

end Invoked

variable {σ : Type}

namespace ToolCall

/-- What a call leaves of its quota: a real one that passes the other gates takes a use, before its
execution begins. -/
def spent (c : ToolCall) (now : Timestamp) : Quota :=
  match Admission.ofCall c.catalog c.name c.raw c.caller with
  | .ok a =>
    if c.options.dryRun then c.quota
    else (c.quota.take now c.name a.tool.rules.perMinute a.tool.rules.perHour).2
  | .error _ => c.quota

/-- One invocation of a call, and the quota that it leaves. -/
inductive Invokes (c : ToolCall) (i : Invoker σ) : Invoked → Quota → Prop
  | answered {d : Option Nat} {e e' : Environment σ} {answer : Except ToolError ToolResult}
      {q' : Quota} (hrun : c.invoke i d e = (some (answer, q'), e')) :
      Invokes c i ⟨c, d, e.now, some answer⟩ q'
  | stopped {d : Option Nat} {e e' : Environment σ} (hrun : c.invoke i d e = (none, e')) :
      Invokes c i ⟨c, d, e.now, none⟩ (c.spent e.now)

end ToolCall

/-- Invocations in a row on one invoker, whose quota is handed on. Anything may happen to the
environment in between. -/
inductive Invocations (i : Invoker σ) (q : Quota) : List Invoked → Quota → Prop
  | start : Invocations i q [] q
  | invoke {log : List Invoked} {q₁ q₂ : Quota} {c : ToolCall} {v : Invoked}
      (run : Invocations i q log q₁) (hcatalog : c.catalog = i.catalog) (hquota : c.quota = q₁)
      (hinvokes : c.Invokes i v q₂) : Invocations i q (log ++ [v]) q₂

/-- The invocations of a tool whose execution has begun. -/
def begunOf (log : List Invoked) (name : String) : List Invoked :=
  log.filter fun v => v.call.name = name ∧ v.begun

/-- The invocations of a tool that were executed. -/
def executedOf (log : List Invoked) (name : String) : List Invoked :=
  log.filter fun v => v.call.name = name ∧ v.executed

/-- The invocations of a tool that only a full quota can keep from being executed. -/
def eligibleOf (log : List Invoked) (name : String) : List Invoked :=
  log.filter fun v => v.call.name = name ∧ v.eligible

/-- The first entries of a list, up to a limit. -/
def upTo {α : Type} : Option Nat → List α → List α
  | some n, l => l.take n
  | none, l => l

/-- The stricter of the limits of a tool. -/
def ToolRules.limit (r : ToolRules) : Option Nat := stricter r.perMinute r.perHour

/-- What the quota counts of so many executions: nothing without a limit. -/
def ToolRules.counted (r : ToolRules) (k : Nat) : Nat :=
  if r.perMinute.isSome ∨ r.perHour.isSome then k else 0

/-- A time at which no period with a limit has run out that began at another time. -/
def ToolRules.Within (r : ToolRules) (start now : Timestamp) : Prop :=
  start.nanoseconds ≤ now.nanoseconds ∧
    (r.perMinute.isSome → Window.minute.Covers start now) ∧
    (r.perHour.isSome → Window.hour.Covers start now)

instance (r : ToolRules) (start now : Timestamp) : Decidable (r.Within start now) :=
  inferInstanceAs (Decidable (_ ∧ _ ∧ _))

/-! ## Limits -/

theorem hasRoom_stricter_iff (a b : Option Nat) (k : Nat) :
    HasRoom (stricter a b) k ↔ HasRoom a k ∧ HasRoom b k := by
  cases a with
  | none => simp [HasRoom, stricter]
  | some m =>
    cases b with
    | none => simp [HasRoom, stricter]
    | some n =>
      simp only [HasRoom, stricter, Option.some.injEq, forall_eq']
      exact Nat.lt_min

theorem ToolRules.counted_succ (r : ToolRules) (k : Nat) :
    r.counted (k + 1) =
      if r.perMinute.isSome ∨ r.perHour.isSome then r.counted k + 1 else r.counted k := by
  unfold ToolRules.counted
  split <;> rfl

/-- There is room below the stricter limit if there is room below both. -/
theorem ToolRules.hasRoom_iff (r : ToolRules) (k : Nat) :
    HasRoom r.limit k ↔ HasRoom r.perMinute (r.counted k) ∧ HasRoom r.perHour (r.counted k) := by
  unfold ToolRules.limit ToolRules.counted
  rw [hasRoom_stricter_iff]
  cases r.perMinute <;> cases r.perHour <;> simp [HasRoom]

theorem upTo_concat {α : Type} (limit : Option Nat) (l : List α) (a : α) :
    upTo limit (l ++ [a]) =
      if HasRoom limit (upTo limit l).length then upTo limit l ++ [a] else upTo limit l := by
  cases limit with
  | none =>
    have hroom : HasRoom none (upTo none l).length := fun n hn => by cases hn
    rw [if_pos hroom]
    rfl
  | some n =>
    have hroom : HasRoom (some n) (upTo (some n) l).length ↔ l.length < n := by
      simp only [HasRoom, upTo, List.length_take, Option.some.injEq, forall_eq']
      omega
    by_cases h : l.length < n
    · rw [if_pos (hroom.2 h)]
      simp only [upTo]
      rw [List.take_of_length_le (by simp; omega), List.take_of_length_le (by omega)]
    · rw [if_neg (mt hroom.1 h)]
      simp only [upTo]
      rw [List.take_append_of_le_length (by omega)]

/-! ## One invocation -/

namespace ToolCall

variable {c : ToolCall} {i : Invoker σ} {v : Invoked} {q' : Quota}

theorem Invokes.call_eq (h : c.Invokes i v q') : v.call = c := by
  cases h <;> rfl

/-- A call that finds all gates open, but perhaps that of the quota, is admitted and not a dry run. -/
theorem ofCall_of_opens {now : Timestamp} (hopen : ∀ g, g ≠ .quota → c.Opens now g) :
    ∃ t p, c.tool? = some t ∧ c.options.dryRun = false ∧
      Admission.ofCall c.catalog c.name c.raw c.caller = .ok ⟨t, c.method? t, p⟩ := by
  obtain ⟨t, ht, -⟩ := hopen .known (by decide)
  have hasks : ∀ g, g ≠ .quota → c.Asks now t g :=
    fun g hg => (opens_iff_asks ht g).1 (hopen g hg)
  obtain ⟨p, hp⟩ := hasks .arguments (by decide)
  refine ⟨t, p, ht, hasks .real (by decide), ofCall_of_asks ht (fun g hlt => hasks g ?_) hp⟩
  intro hquota
  rw [hquota] at hlt
  exact absurd hlt (by decide)

/-- The eligible calls are those that find all gates open but perhaps that of the quota. -/
theorem eligible_iff_opens (v : Invoked) :
    v.eligible = true ↔ ∀ g, g ≠ .quota → v.call.Opens v.now g := by
  constructor
  · intro heligible g hg
    apply Classical.not_not.1
    intro hclosed
    obtain ⟨g', hstops⟩ := exists_stops_of_not_opens _ g (Nat.le_refl _) hclosed
    unfold Invoked.eligible at heligible
    by_cases hearly : g'.place < 7
    · obtain ⟨err, -, hcall⟩ := ofCall_of_stops hstops hearly
      simp [hcall] at heligible
    · cases g' with
      | quota =>
        -- the closed gate stands before that of the quota
        have hplace : g.place < Gate.quota.place := by cases g <;> simp_all [Gate.place]
        exact hclosed (hstops.2 g hplace)
      | real =>
        obtain ⟨t, ht, hn, -⟩ := hstops.exists_tool (by decide)
        have hdry : v.call.options.dryRun = true := by simpa [Asks] using hn
        split at heligible
        · simp [hdry] at heligible
        · cases heligible
      | _ => exact absurd (by decide) hearly
  · intro hopen
    obtain ⟨t, p, -, hdry, hcall⟩ := ofCall_of_opens hopen
    simp [Invoked.eligible, hcall, hdry]

/-- A call that is refused before the quota, or is a dry run, is not eligible and takes nothing. -/
theorem not_eligible_cases (hcall : ∀ a, Admission.ofCall c.catalog c.name c.raw c.caller = .ok a →
      c.options.dryRun = true) (i : Invoker σ) (d : Option Nat) (e : Environment σ) :
    ∃ answer, c.invoke i d e = (some (answer, c.quota), e) ∧
      (Invoked.mk c d e.now (some answer)).eligible = false ∧
      (Invoked.mk c d e.now (some answer)).begun = false := by
  cases hof : Admission.ofCall c.catalog c.name c.raw c.caller with
  | error err =>
    exact ⟨_, invoke_of_refusal hof, by simp [Invoked.eligible, hof], rfl⟩
  | ok a =>
    have hdry := hcall a hof
    exact ⟨_, invoke_of_dryRun hof hdry, by simp [Invoked.eligible, hof, hdry], rfl⟩

/-- What a call comes to: nothing is taken, a use is refused, or the call takes one and its execution
begins. -/
theorem Invokes.cases (h : c.Invokes i v q') :
    (v.eligible = false ∧ v.begun = false ∧ q' = c.quota) ∨
    (v.eligible = true ∧ ∃ t, c.tool? = some t ∧
      ((∃ s, c.quota.take v.now c.name t.rules.perMinute t.rules.perHour = (.error s, q') ∧
          v.answer = some (.error (.rateLimited c.name s.wait))) ∨
        (c.quota.take v.now c.name t.rules.perMinute t.rules.perHour = (.ok (), q') ∧
          v.begun = true))) := by
  by_cases hreal : ∃ a, Admission.ofCall c.catalog c.name c.raw c.caller = .ok a ∧
      c.options.dryRun = false
  · obtain ⟨a, hcall, hdry⟩ := hreal
    have ht := tool?_of_admission hcall
    right
    cases h with
    | @answered d e e' answer q' hrun =>
      refine ⟨by simp [Invoked.eligible, hcall, hdry], a.tool, ht, ?_⟩
      rcases htake : c.quota.take e.now c.name a.tool.rules.perMinute a.tool.rules.perHour
        with ⟨s | _, q₁⟩
      · rw [invoke_of_admission hcall hdry htake] at hrun
        cases hrun
        exact .inl ⟨s, rfl, rfl⟩
      · rw [invoke_of_admission hcall hdry htake] at hrun
        obtain ⟨r, hexecute, hanswer⟩ := Timed.exists_of_map_some hrun
        cases hanswer
        refine .inr ⟨rfl, ?_⟩
        simpa [Invoked.begun, Invoked.executed] using Invoker.attempts_of_execute hexecute
    | @stopped d e e' hrun =>
      refine ⟨by simp [Invoked.eligible, hcall, hdry], a.tool, ht, .inr ⟨?_, rfl⟩⟩
      -- a use that is refused would have been answered
      rcases htake : c.quota.take e.now c.name a.tool.rules.perMinute a.tool.rules.perHour
        with ⟨s | _, q₁⟩
      · rw [invoke_of_admission hcall hdry htake] at hrun
        cases hrun
      · simp [spent, hcall, hdry, htake]
  · left
    have hno : ∀ a, Admission.ofCall c.catalog c.name c.raw c.caller = .ok a →
        c.options.dryRun = true := by
      intro a hcall
      cases hdry : c.options.dryRun with
      | true => rfl
      | false => exact absurd ⟨a, hcall, hdry⟩ hreal
    cases h with
    | @answered d e e' answer q' hrun =>
      obtain ⟨answer₂, hrun', heligible, hbegun⟩ := not_eligible_cases hno i d e
      rw [hrun'] at hrun
      cases hrun
      exact ⟨heligible, hbegun, rfl⟩
    | @stopped d e e' hrun =>
      obtain ⟨answer₂, hrun', -⟩ := not_eligible_cases hno i d e
      rw [hrun'] at hrun
      cases hrun

/-- An answered call leaves of its quota what every call leaves. -/
theorem eq_spent_of_invoke {d : Option Nat} {e e' : Environment σ}
    {answer : Except ToolError ToolResult} (hrun : c.invoke i d e = (some (answer, q'), e')) :
    q' = c.spent e.now := by
  unfold spent
  cases hcall : Admission.ofCall c.catalog c.name c.raw c.caller with
  | error err =>
    rw [invoke_of_refusal hcall] at hrun
    cases hrun
    rfl
  | ok a =>
    cases hdry : c.options.dryRun with
    | true =>
      rw [invoke_of_dryRun hcall hdry] at hrun
      cases hrun
      rfl
    | false =>
      rcases htake : c.quota.take e.now c.name a.tool.rules.perMinute a.tool.rules.perHour
        with ⟨s | _, q₁⟩
      · rw [invoke_of_admission hcall hdry htake] at hrun
        cases hrun
        simp [htake]
      · rw [invoke_of_admission hcall hdry htake] at hrun
        obtain ⟨r, -, hanswer⟩ := Timed.exists_of_map_some hrun
        cases hanswer
        simp [htake]

/-- What can be answered is executed once its execution has begun. -/
theorem Invokes.executed_of_begun (h : c.Invokes i v q') (hbegun : v.begun = true)
    (hanswerable : v.Answerable i) : v.executed = true := by
  cases h with
  | answered hrun => simpa [Invoked.begun] using hbegun
  | @stopped d e e' hrun =>
    obtain ⟨hfits, hanswers⟩ := hanswerable
    have hattempt : ∀ a e, c.tool? = some a.tool →
        ∃ r e', i.attempt a c.options d e = (some r, e') := by
      intro a e ha
      rcases hanswers with ⟨rfl, hlimit⟩ | hwork
      · exact i.attempt_answers (hlimit a.tool ha) e
      · exact Invoker.attempt_answers_of_work (fun d e => hwork a d e) d e
    obtain ⟨answer, q₁, e₁, hanswer⟩ := invoke_answers hfits hattempt e
    rw [hanswer] at hrun
    cases hrun

/-- An invocation takes nothing from the usage of other tools. -/
theorem Invokes.usage_of_ne (h : c.Invokes i v q') {other : String} (hne : other ≠ c.name) :
    q'.usage.get? other = c.quota.usage.get? other := by
  rcases h.cases with ⟨-, -, rfl⟩ | ⟨-, t, -, htaken⟩
  · rfl
  · have hkept := Quota.usage_take_of_ne hne c.quota v.now t.rules.perMinute t.rules.perHour
    rcases htaken with ⟨s, htake, -⟩ | ⟨htake, -⟩
    all_goals
      rw [htake] at hkept
      exact hkept

/-- What an invocation leaves of a tool's usage is told by what it has found of it. -/
theorem usage_spent_congr {q : Quota} (hsame : q.usage.get? c.name = c.quota.usage.get? c.name)
    (now : Timestamp) :
    ({ c with quota := q : ToolCall }.spent now).usage.get? c.name =
      (c.spent now).usage.get? c.name := by
  unfold spent caller
  cases Admission.ofCall c.catalog c.name c.raw c.options.caller with
  | error err => exact hsame
  | ok a =>
    cases c.options.dryRun with
    | true => exact hsame
    | false => exact (Quota.take_congr hsame now a.tool.rules.perMinute a.tool.rules.perHour).2

/-- With another quota of the same usage of the tool, the answer is the same. -/
theorem answer_congr {q : Quota} (hsame : q.usage.get? c.name = c.quota.usage.get? c.name)
    (d : Option Nat) (e : Environment σ) :
    ({ c with quota := q : ToolCall }.invoke i d e).1.map Prod.fst =
      (c.invoke i d e).1.map Prod.fst := by
  cases hcall : Admission.ofCall c.catalog c.name c.raw c.caller with
  | error err =>
    rw [invoke_of_refusal hcall, invoke_of_refusal (c := { c with quota := q }) hcall]
    rfl
  | ok a =>
    cases hdry : c.options.dryRun with
    | true =>
      rw [invoke_of_dryRun hcall hdry, invoke_of_dryRun (c := { c with quota := q }) hcall hdry]
      rfl
    | false =>
      have hfirst := (Quota.take_congr hsame e.now a.tool.rules.perMinute a.tool.rules.perHour).1
      rcases htake : c.quota.take e.now c.name a.tool.rules.perMinute a.tool.rules.perHour
        with ⟨r, q₁⟩
      rw [htake] at hfirst
      have htake' : q.take e.now c.name a.tool.rules.perMinute a.tool.rules.perHour =
          (r, (q.take e.now c.name a.tool.rules.perMinute a.tool.rules.perHour).2) :=
        Prod.ext hfirst rfl
      rw [invoke_of_admission hcall hdry htake,
        invoke_of_admission (c := { c with quota := q }) hcall hdry htake']
      cases r with
      | error s => rfl
      | ok _ =>
        simp only [Timed.map_apply]
        rcases i.execute a c.options d e with ⟨_ | r, e'⟩ <;> rfl

/-- With another quota of the same usage of the tool, the invocation comes to the same. -/
theorem Invokes.of_same_usage (h : c.Invokes i v q') {q : Quota}
    (hsame : q.usage.get? c.name = c.quota.usage.get? c.name) :
    ∃ v₂ q₂, { c with quota := q : ToolCall }.Invokes i v₂ q₂ ∧ v₂.plain = v.plain ∧
      q₂.usage.get? c.name = q'.usage.get? c.name := by
  cases h with
  | @answered d e e' answer q' hrun =>
    have hanswer := answer_congr (i := i) hsame d e
    rw [hrun] at hanswer
    rcases hrun' : { c with quota := q : ToolCall }.invoke i d e with ⟨_ | ⟨answer₂, q₂⟩, e₂⟩
    · rw [hrun'] at hanswer
      cases hanswer
    · rw [hrun'] at hanswer
      cases hanswer
      refine ⟨_, q₂, .answered hrun', rfl, ?_⟩
      rw [eq_spent_of_invoke hrun', eq_spent_of_invoke hrun]
      exact usage_spent_congr hsame e.now
  | @stopped d e e' hrun =>
    have hanswer := answer_congr (i := i) hsame d e
    rw [hrun] at hanswer
    rcases hrun' : { c with quota := q : ToolCall }.invoke i d e with ⟨_ | ⟨answer₂, q₂⟩, e₂⟩
    · exact ⟨_, _, .stopped hrun', rfl, usage_spent_congr hsame e.now⟩
    · rw [hrun'] at hanswer
      cases hanswer

end ToolCall

/-! ## Runs -/

section
variable {i : Invoker σ} {q q' : Quota} {log : List Invoked}

theorem filter_concat {α : Type} (p : α → Bool) (l : List α) (a : α) :
    (l ++ [a]).filter p = if p a then l.filter p ++ [a] else l.filter p := by
  rw [List.filter_append]
  cases h : p a <;> simp [h]

theorem begunOf_append (log : List Invoked) (v : Invoked) (name : String) :
    begunOf (log ++ [v]) name =
      if v.call.name = name ∧ v.begun then begunOf log name ++ [v]
      else begunOf log name := by
  simp only [begunOf, filter_concat, decide_eq_true_eq]

theorem eligibleOf_append (log : List Invoked) (v : Invoked) (name : String) :
    eligibleOf (log ++ [v]) name =
      if v.call.name = name ∧ v.eligible then eligibleOf log name ++ [v]
      else eligibleOf log name := by
  simp only [eligibleOf, filter_concat, decide_eq_true_eq]

/-- What a run within one period has come to for a tool: executions have begun of the first eligible
calls, the quota counts them if there is a limit, and the other eligible calls are refused. -/
structure Metered (t : Tool) (name : String) (start : Timestamp) (log : List Invoked) (q : Quota) :
    Prop where
  begun : begunOf log name = upTo t.rules.limit (eligibleOf log name)
  spent : q.Spent start name (t.rules.counted (begunOf log name).length)
  refused : ∀ v ∈ log, v.call.name = name → v.eligible = true → v.begun = false →
    ∃ wait, v.answer = some (.error (.rateLimited name wait))

namespace Metered

variable {t : Tool} {name : String} {start : Timestamp}

theorem empty (t : Tool) (name : String) (start : Timestamp) : Metered t name start [] {} where
  begun := by
    cases t.rules.limit <;> simp [begunOf, eligibleOf, upTo]
  spent := by
    have hzero : t.rules.counted (begunOf [] name).length = 0 := by
      simp [ToolRules.counted, begunOf]
    rw [hzero]
    exact Quota.spent_empty start name
  refused := fun v hv => by cases hv

/-- One more record keeps the refusals of the run. -/
theorem append (h : Metered t name start log q) {v : Invoked}
    (hbegun : begunOf (log ++ [v]) name = upTo t.rules.limit (eligibleOf (log ++ [v]) name))
    (hspent : q'.Spent start name (t.rules.counted (begunOf (log ++ [v]) name).length))
    (hrefused : v.call.name = name → v.eligible = true → v.begun = false →
      ∃ wait, v.answer = some (.error (.rateLimited name wait))) :
    Metered t name start (log ++ [v]) q' := by
  refine ⟨hbegun, hspent, ?_⟩
  intro u hu
  rcases List.mem_append.1 hu with hold | hnew
  · exact h.refused u hold
  · rw [List.mem_singleton.1 hnew]
    exact hrefused

/-- A record that is of another tool or not eligible changes nothing. -/
theorem append_other (h : Metered t name start log q) {v : Invoked}
    (heligible : ¬ (v.call.name = name ∧ v.eligible))
    (hbegun : ¬ (v.call.name = name ∧ v.begun))
    (hsame : q'.usage.get? name = q.usage.get? name) : Metered t name start (log ++ [v]) q' := by
  have hone := begunOf_append log v name
  have hall := eligibleOf_append log v name
  rw [if_neg hbegun] at hone
  rw [if_neg heligible] at hall
  refine h.append ?_ ?_ fun hname hyes _ => absurd ⟨hname, hyes⟩ heligible
  · rw [hone, hall, h.begun]
  · rw [hone]
    exact h.spent.congr hsame

/-- As long as there is room, the execution of an eligible call begins and is counted. -/
theorem append_begun (h : Metered t name start log q) {v : Invoked} (hname : v.call.name = name)
    (heligible : v.eligible = true) (hbegun : v.begun = true)
    (hroom : HasRoom t.rules.limit (begunOf log name).length)
    (hspent : q'.Spent start name (t.rules.counted ((begunOf log name).length + 1))) :
    Metered t name start (log ++ [v]) q' := by
  have hone := begunOf_append log v name
  have hall := eligibleOf_append log v name
  rw [if_pos ⟨hname, hbegun⟩] at hone
  rw [if_pos ⟨hname, heligible⟩] at hall
  refine h.append ?_ ?_ fun _ _ hnot => ?_
  · rw [hone, hall, upTo_concat, ← h.begun, if_pos hroom]
  · rw [hone, List.length_append]
    exact hspent
  · rw [hbegun] at hnot
    cases hnot

/-- Without room, an eligible call is refused. -/
theorem append_refused (h : Metered t name start log q) {v : Invoked} (hname : v.call.name = name)
    (heligible : v.eligible = true) {wait : Nat}
    (hanswer : v.answer = some (.error (.rateLimited name wait)))
    (hroom : ¬ HasRoom t.rules.limit (begunOf log name).length)
    (hspent : q'.Spent start name (t.rules.counted (begunOf log name).length)) :
    Metered t name start (log ++ [v]) q' := by
  have hbegun : v.begun = false := by
    simp [Invoked.begun, Invoked.executed, hanswer]
  have hone := begunOf_append log v name
  have hall := eligibleOf_append log v name
  rw [if_neg (by simp [hbegun])] at hone
  rw [if_pos ⟨hname, heligible⟩] at hall
  refine h.append ?_ ?_ fun _ _ _ => ⟨wait, hanswer⟩
  · rw [hone, hall, upTo_concat, ← h.begun, if_neg hroom]
  · rw [hone]
    exact hspent

/-- What one invocation adds keeps what the run has come to. -/
theorem step {c : ToolCall} {i : Invoker σ} {v : Invoked} (h : Metered t name start log c.quota)
    (ht : c.catalog.tool? name = some t) (hinvokes : c.Invokes i v q')
    (hwithin : c.name = name → t.rules.Within start v.now) :
    Metered t name start (log ++ [v]) q' := by
  have hcall := hinvokes.call_eq
  by_cases hname : c.name = name
  · subst hname
    obtain ⟨hnow, hminute, hhour⟩ := hwithin rfl
    have hroom := t.rules.hasRoom_iff (begunOf log c.name).length
    have hown : v.call.name = c.name := congrArg ToolCall.name hcall
    rcases hinvokes.cases with ⟨hno, hnot, rfl⟩ | ⟨hyes, t', ht', htaken⟩
    · exact h.append_other (by simp [hno]) (by simp [hnot]) rfl
    · obtain rfl : t' = t := Option.some.inj (ht'.symm.trans ht)
      by_cases hfree : HasRoom t'.rules.limit (begunOf log c.name).length
      · obtain ⟨hm, hh⟩ := hroom.1 hfree
        obtain ⟨hok, hspent⟩ := h.spent.take_of_room hnow hminute hhour hm hh
        rcases htaken with ⟨s, htake, -⟩ | ⟨htake, hbegun⟩
        · rw [htake] at hok
          cases hok
        · rw [htake] at hspent
          rw [← ToolRules.counted_succ] at hspent
          exact h.append_begun hown hyes hbegun hfree hspent
      · obtain ⟨s, -, herror, hspent⟩ :=
          h.spent.take_of_no_room hnow hminute hhour (mt hroom.2 hfree)
        rcases htaken with ⟨s', htake, hanswer⟩ | ⟨htake, -⟩
        · rw [htake] at hspent
          exact h.append_refused hown hyes hanswer hfree hspent
        · rw [htake] at herror
          cases herror
  · have hother : v.call.name ≠ name := fun hv => hname ((congrArg ToolCall.name hcall).symm.trans hv)
    exact h.append_other (fun hboth => hother hboth.1) (fun hboth => hother hboth.1)
      (hinvokes.usage_of_ne (Ne.symm hname))

end Metered

/-- A whole run in which no period with a limit of the tool has run out. -/
theorem metered_of_run (run : Invocations i {} log q) {name : String} {t : Tool}
    (ht : i.catalog.tool? name = some t) {start : Timestamp}
    (hwithin : ∀ v ∈ log, v.call.name = name → t.rules.Within start v.now) :
    Metered t name start log q := by
  induction run with
  | start => exact .empty t name start
  | @invoke log q₁ q₂ c v run hcatalog hquota hinvokes ih =>
    have hbefore := ih fun v hv => hwithin v (List.mem_append_left _ hv)
    rw [← hquota] at hbefore
    rw [← hcatalog] at ht
    refine hbefore.step ht hinvokes fun hname => hwithin v (by simp) ?_
    rw [hinvokes.call_eq]
    exact hname

/-- Each record of a run is of an invocation of its call. -/
theorem exists_invokes_of_mem (run : Invocations i {} log q) :
    ∀ v ∈ log, ∃ q', v.call.Invokes i v q' := by
  induction run with
  | start =>
    intro v hv
    cases hv
  | invoke run hcatalog hquota hinvokes ih =>
    intro v hv
    rcases List.mem_append.1 hv with hold | hnew
    · exact ih v hold
    · rw [List.mem_singleton.1 hnew]
      exact ⟨_, hinvokes.call_eq.symm ▸ hinvokes⟩

/-- An execution that has begun found all gates open but perhaps that of the quota. -/
theorem eligible_of_begun (run : Invocations i {} log q) {v : Invoked} (hv : v ∈ log)
    (hbegun : v.begun = true) : v.eligible = true := by
  obtain ⟨q', hinvokes⟩ := exists_invokes_of_mem run v hv
  rcases hinvokes.cases with ⟨-, hnot, -⟩ | ⟨hyes, -⟩
  · rw [hbegun] at hnot
    cases hnot
  · exact hyes

/-- If all that has begun can be answered, it is executed. -/
theorem executedOf_eq_begunOf (run : Invocations i {} log q) {name : String}
    (h : ∀ v ∈ log, v.call.name = name → v.Answerable i) : executedOf log name = begunOf log name := by
  refine List.filter_congr fun v hv => ?_
  obtain ⟨q', hinvokes⟩ := exists_invokes_of_mem run v hv
  by_cases hname : v.call.name = name
  · cases hbegun : v.begun with
    | true => simp [hname, hinvokes.executed_of_begun hbegun (h v hv hname)]
    | false =>
      have hnot : v.executed = false := by
        unfold Invoked.begun at hbegun
        exact (Bool.or_eq_false_iff.1 hbegun).2
      simp [hnot]
  · simp [hname]

/-- The invocations of one tool, without all others, are answered as they are among them. -/
theorem exists_alone (run : Invocations i {} log q) (name : String) :
    ∃ alone q₁, Invocations i {} alone q₁ ∧
      alone.map Invoked.plain = (log.filter (·.call.name = name)).map Invoked.plain ∧
      q₁.usage.get? name = q.usage.get? name := by
  induction run with
  | start => exact ⟨[], {}, .start, rfl, rfl⟩
  | @invoke log q₁ q₂ c v run hcatalog hquota hinvokes ih =>
    obtain ⟨alone, q₃, hrun', hmap, hsame⟩ := ih
    have hcall : v.call.name = c.name := congrArg ToolCall.name hinvokes.call_eq
    rw [List.filter_append]
    by_cases hname : c.name = name
    · subst hname hquota
      obtain ⟨v₄, q₄, hinvokes₄, hplain, hsame₄⟩ := hinvokes.of_same_usage hsame
      refine ⟨_, q₄, hrun'.invoke (c := { c with quota := q₃ }) hcatalog rfl hinvokes₄, ?_, hsame₄⟩
      simp [hmap, hplain, hcall]
    · have hkept := hinvokes.usage_of_ne (Ne.symm hname)
      refine ⟨alone, q₃, hrun', ?_, ?_⟩
      · simp [hmap, hcall, hname]
      · rw [hsame, hkept, hquota]

/-- **The law of the quotas.** In a run of invocations from an empty quota, as long as no period with
a limit of a tool has run out, executions begin of exactly the first eligible calls of the tool, as
many as its limits allow: of the real calls that find all other gates open. All later ones are refused
for the quota. The quota counts each execution once, however many attempts it took, and nothing else;
it counts nothing of a tool without limits. What has begun is executed, if nothing keeps it from its
result: an overflow of the limit of its attempts, in a build that aborts then, or an attempt without
end. So if no call of the tool is kept, exactly those first calls are executed. The calls of one tool
have the same answers in a run without the calls of all others. -/
theorem quota_law_of_run (run : Invocations i {} log q) (name : String) :
    (∀ t, i.catalog.tool? name = some t → ∀ start,
      (∀ v ∈ log, v.call.name = name → t.rules.Within start v.now) →
      begunOf log name = upTo (stricter t.rules.perMinute t.rules.perHour) (eligibleOf log name) ∧
      ((∀ v ∈ log, v.call.name = name → v.Answerable i) →
        executedOf log name =
          upTo (stricter t.rules.perMinute t.rules.perHour) (eligibleOf log name)) ∧
      (∀ v ∈ log, v.call.name = name → v.eligible = true → v.begun = false →
        ∃ wait, v.answer = some (.error (.rateLimited name wait))) ∧
      ∀ w now, w.Covers start now →
        q.uses now w name = t.rules.counted (begunOf log name).length) ∧
    (∀ v ∈ log, (v.eligible = true ↔ ∀ g, g ≠ .quota → v.call.Opens v.now g) ∧
      (v.begun = true → v.eligible = true ∧ (v.Answerable i → v.executed = true))) ∧
    ∃ alone q₁, Invocations i {} alone q₁ ∧
      alone.map Invoked.plain = (log.filter (·.call.name = name)).map Invoked.plain ∧
      q₁.usage.get? name = q.usage.get? name := by
  refine ⟨?_, ?_, exists_alone run name⟩
  · intro t ht start hwithin
    have hmetered := metered_of_run run ht hwithin
    refine ⟨hmetered.begun, fun hanswerable => ?_, hmetered.refused,
      fun w now hnow => hmetered.spent.uses hnow⟩
    rw [executedOf_eq_begunOf run hanswerable]
    exact hmetered.begun
  · intro v hv
    refine ⟨ToolCall.eligible_iff_opens v, fun hbegun => ⟨eligible_of_begun run hv hbegun, ?_⟩⟩
    obtain ⟨q', hinvokes⟩ := exists_invokes_of_mem run v hv
    exact hinvokes.executed_of_begun hbegun

end

/-! ## A bell that rings once a minute -/

def bell : Tool where
  info := { name := "bell" }
  rules := { perMinute := some 1 }

def belfry : Invoker Unit where
  catalog := { tools := .replace .empty bell }
  implementations := .insert .empty "bell" fun _ => pure (.ok (.str "ding"))

/-- A pull of the rope, or a rehearsal of one. -/
def pull (q : Quota) (dryRun : Bool) : ToolCall where
  catalog := belfry.catalog
  quota := q
  name := "bell"
  raw := .obj []
  options := { dryRun := dryRun }

/-- A rehearsal, a pull and one more in the same minute. -/
theorem exists_pulls :
    ∃ log q, Invocations belfry {} log q ∧ log.map (·.now) = [⟨0⟩, ⟨5⟩, ⟨30⟩] ∧
      log.map (·.call.options.dryRun) = [true, false, false] ∧
      log.map (·.eligible) = [false, true, true] ∧
      ∀ v ∈ log, v.deadline = none ∧ v.call.tool? = some bell := by
  have rehearsed := (Invocations.start (i := belfry) (q := {})).invoke (c := pull {} true)
    rfl rfl (.answered (d := none) (e := ⟨(), 0, ⟨0⟩, 0⟩) rfl)
  have rung := rehearsed.invoke (c := pull _ false)
    rfl rfl (.answered (d := none) (e := ⟨(), 0, ⟨5⟩, 0⟩) rfl)
  have refused := rung.invoke (c := pull _ false)
    rfl rfl (.answered (d := none) (e := ⟨(), 0, ⟨30⟩, 0⟩) rfl)
  refine ⟨_, _, refused, rfl, rfl, rfl, fun v hv => ?_⟩
  simp only [List.nil_append, List.cons_append, List.mem_cons, List.not_mem_nil, or_false] at hv
  rcases hv with rfl | rfl | rfl <;> exact ⟨rfl, rfl⟩

/-- A pull has a time limit, and the build goes on if a number overflows. -/
theorem bell_answerable {v : Invoked} (hdeadline : v.deadline = none)
    (ht : v.call.tool? = some bell) : v.Answerable belfry where
  fits a _ hover := by cases hover.aborts
  answers := by
    refine .inl ⟨hdeadline, fun t ht' => ?_⟩
    obtain rfl : bell = t := Option.some.inj (ht.symm.trans ht')
    cases v.call.options.timeoutSeconds <;> rfl

/-- The bell rings once, and the quota has counted that. -/
theorem bell_rings_once :
    ∃ log q, Invocations belfry {} log q ∧ (∀ v ∈ log, bell.rules.Within ⟨0⟩ v.now) ∧
      (∀ v ∈ log, v.Answerable belfry) ∧
      log.map (·.call.options.dryRun) = [true, false, false] ∧
      log.map (·.eligible) = [false, true, true] ∧
      executedOf log "bell" = (eligibleOf log "bell").take 1 ∧
      q.uses ⟨45⟩ .minute "bell" = (executedOf log "bell").length := by
  obtain ⟨log, q, run, htimes, hdry, heligible, hcalls⟩ := exists_pulls
  have hwithin : ∀ v ∈ log, bell.rules.Within ⟨0⟩ v.now := by
    have hall : ∀ now ∈ log.map (·.now), bell.rules.Within ⟨0⟩ now := by
      rw [htimes]
      decide
    exact fun v hv => hall v.now (List.mem_map_of_mem hv)
  have hanswerable : ∀ v ∈ log, v.Answerable belfry := fun v hv =>
    bell_answerable (hcalls v hv).1 (hcalls v hv).2
  obtain ⟨hbegun, hone, -, hcount⟩ := (quota_law_of_run run "bell").1 bell rfl ⟨0⟩
    fun v hv _ => hwithin v hv
  have hexecuted := hone fun v hv _ => hanswerable v hv
  refine ⟨log, q, run, hwithin, hanswerable, hdry, heligible, hexecuted, ?_⟩
  rw [hcount .minute ⟨45⟩ (by decide), hbegun, hexecuted]
  rfl

end CasefileHub
