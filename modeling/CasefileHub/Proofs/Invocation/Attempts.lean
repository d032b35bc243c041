import CasefileHub.Proofs.Invocation.Gates
/-!
# Attempts

The work of a tool is scripted here: call by call it takes some time and then has some result, and
the state is the list of the calls made. An execution makes attempts until one succeeds, fails for
good or is the last that is allowed, calls the tool's implementation once for each, with the same
parameters, and reports the outcome of the last:

    attempting once further = (n, outcome n), with n the first that settles
      the execution, after n calls                                      (attempting_settles)
    c.invoke i e = ok r, with r.attempts the first that settles it,
      r.outcome its outcome, after r.attempts equal calls                  (attempts_settle)
-/

namespace CasefileHub

/-! ## Scripts -/

/-- How the work of one attempt goes: it takes some nanoseconds, and then has a result. -/
structure Behaviour where
  delay : Nat
  result : Except HubError Json

/-- The outcome of an attempt with a time limit of its own: its result if it is in time. -/
def Behaviour.outcome (tool : String) (seconds : Option Nat) (b : Behaviour) :
    Except HubError Json :=
  match seconds with
  | some s => if b.delay ≤ Timed.nanos s then b.result else .error (Invoker.timeout tool s)
  | none => b.result

/-- A call of a tool's own implementation, or of a method through the executor. -/
inductive Call where
  | own (parameters : Parameters)
  | method (name : String) (parameters : Parameters) (caller : Caller)

/-- Notes a call, and behaves as the script has it for the call with its number. -/
def scripted (script : Nat → Behaviour) (call : Call) :
    Timed (List Call) (Except HubError Json) := do
  Timed.modify (· ++ [call])
  let calls ← Timed.get
  Timed.sleep (script calls.length).delay
  return (script calls.length).result

def scriptedImplementation (script : Nat → Behaviour) : Implementation (List Call) :=
  fun p => scripted script (.own p)

def scriptedExecutor (script : Nat → Behaviour) : Executor (List Call) :=
  fun method p caller => scripted script (.method method p caller)

/-- The work of the tool is scripted: that of its own implementation if it has one, and that of the
executor of its method otherwise. -/
inductive Invoker.Follows (i : Invoker (List Call)) (script : Nat → Behaviour) (t : Tool) :
    (Parameters → Caller → Call) → Prop
  | own (himpl : i.implementations.get? t.name = some (scriptedImplementation script)) :
      Follows i script t fun p _ => .own p
  | method {name : String} (hnone : i.implementations.get? t.name = none)
      (hname : t.methodName = some name) (hexecutor : i.executor = some (scriptedExecutor script)) :
      Follows i script t fun p caller => .method name p caller

/-! ## When an execution is settled -/

/-- An attempt is followed by no other: it succeeds, fails for good, or is the last allowed. -/
def Settles (limit : Nat) (outcome : Nat → Except HubError Json) (n : Nat) : Prop :=
  (∃ v, outcome n = .ok v) ∨
    (∃ err, outcome n = .error err ∧ ∀ kind text, err ≠ .execution kind text) ∨ n = limit

/-- The first attempt that is followed by no other. -/
structure FirstSettles (limit : Nat) (outcome : Nat → Except HubError Json) (n : Nat) : Prop where
  pos : 1 ≤ n
  settles : Settles limit outcome n
  first : ∀ m, 1 ≤ m → m < n → ¬ Settles limit outcome m

variable {limit : Nat} {outcome : Nat → Except HubError Json}

theorem firstSettles_one (h : Settles limit outcome 1) : FirstSettles limit outcome 1 :=
  ⟨Nat.le_refl 1, h, fun m hpos hlt => by omega⟩

/-- A failed execution settles nothing if another attempt is allowed. -/
theorem not_settles_of_execution {n : Nat} {kind text : String}
    (hfail : outcome n = .error (.execution kind text)) (hne : n ≠ limit) :
    ¬ Settles limit outcome n := by
  rintro (⟨v, hv⟩ | ⟨err, herr, hother⟩ | hlast)
  · rw [hfail] at hv
    cases hv
  · rw [hfail] at herr
    cases herr
    exact hother kind text rfl
  · exact hne hlast

theorem settles_succ_iff (n : Nat) :
    Settles (limit + 1) outcome (n + 1) ↔ Settles limit (fun k => outcome (k + 1)) n := by
  simp only [Settles, Nat.add_right_cancel_iff]

/-- After a failed execution the next attempts settle it as if they were all, one less allowed. -/
theorem FirstSettles.succ {kind text : String} (hfail : outcome 1 = .error (.execution kind text))
    (hlimit : limit ≠ 0) {n : Nat} (h : FirstSettles limit (fun k => outcome (k + 1)) n) :
    FirstSettles (limit + 1) outcome (n + 1) := by
  refine ⟨Nat.le_add_left 1 n, (settles_succ_iff n).2 h.settles, fun m hpos hlt => ?_⟩
  obtain ⟨k, rfl⟩ := Nat.exists_eq_add_of_le' hpos
  cases k with
  | zero => exact not_settles_of_execution hfail (by omega)
  | succ k => exact mt (settles_succ_iff (k + 1)).1 (h.first (k + 1) (by omega) (by omega))

theorem FirstSettles.unique {m n : Nat} (hm : FirstSettles limit outcome m)
    (hn : FirstSettles limit outcome n) : m = n := by
  rcases Nat.lt_trichotomy m n with hlt | heq | hgt
  · exact absurd hm.settles (hn.first m hm.pos hlt)
  · exact heq
  · exact absurd hn.settles (hm.first n hn.pos hgt)

/-! ## One attempt -/

section
variable {script : Nat → Behaviour} {call : Call}

/-- The environment after a call that is noted and then takes some time. -/
def noting (e : Environment (List Call)) (call : Call) (time : Nat) : Environment (List Call) :=
  { e with state := e.state ++ [call], clock := e.clock + time }

/-- Work that is done by the deadline, if there is one, has its result. -/
theorem scripted_of_le {d : Option Nat} {e : Environment (List Call)}
    (h : ∀ last ∈ d, e.clock + (script (e.state.length + 1)).delay ≤ last) :
    scripted script call d e = (some (script (e.state.length + 1)).result,
      noting e call (script (e.state.length + 1)).delay) := by
  have hlength : (e.state ++ [call]).length = e.state.length + 1 := List.length_append
  rw [← hlength] at h ⊢
  cases d with
  | none => rfl
  | some last =>
    simp only [scripted, Timed.bind_apply, Timed.modify, Timed.get, Timed.step, Timed.sleep]
    rw [if_pos (h last rfl)]
    rfl

/-- Work that would take longer has none. -/
theorem scripted_of_lt {time : Nat} {e : Environment (List Call)}
    (h : time < (script (e.state.length + 1)).delay) :
    scripted script call (some (e.clock + time)) e = (none, noting e call time) := by
  have hlength : (e.state ++ [call]).length = e.state.length + 1 := List.length_append
  rw [← hlength] at h
  simp only [scripted, Timed.bind_apply, Timed.modify, Timed.get, Timed.step, Timed.sleep]
  rw [if_neg (by omega)]
  rfl

/-- An attempt comes to the outcome of the script and makes one call. -/
theorem attempt_scripted {i : Invoker (List Call)} {a : Admission} {options : InvokeOptions}
    (hwork : i.work a options.caller = scripted script call) (e : Environment (List Call)) :
    ∃ e', i.attempt a options none e =
        (some ((script (e.state.length + 1)).outcome a.tool.name
          (stricter options.timeoutSeconds a.tool.rules.timeoutSeconds)), e') ∧
      e'.state = e.state ++ [call] := by
  unfold Invoker.attempt Behaviour.outcome
  rw [hwork]
  cases stricter options.timeoutSeconds a.tool.rules.timeoutSeconds with
  | none =>
    refine ⟨noting e call (script (e.state.length + 1)).delay, ?_, rfl⟩
    rw [Timed.bind_apply, Timed.withinOption, Timed.map_apply, scripted_of_le (by simp)]
    rfl
  | some s =>
    by_cases hle : (script (e.state.length + 1)).delay ≤ Timed.nanos s
    · refine ⟨noting e call (script (e.state.length + 1)).delay, ?_, rfl⟩
      have hrun : scripted script call (some (e.clock + Timed.nanos s)) e = _ :=
        scripted_of_le fun last hlast => by cases hlast; omega
      simp only [Timed.bind_apply, Timed.withinOption, Timed.within, Timed.comesFirst, if_true,
        hrun, if_pos hle]
      rfl
    · refine ⟨noting e call (Timed.nanos s), ?_, rfl⟩
      have hrun : scripted script call (some (e.clock + Timed.nanos s)) e = _ :=
        scripted_of_lt (Nat.lt_of_not_le hle)
      simp only [Timed.bind_apply, Timed.withinOption, Timed.within, Timed.comesFirst, if_true,
        hrun, if_neg hle]
      rfl

end

/-! ## All attempts -/

section
variable {once : Timed (List Call) (Except HubError Json)} {call : Call}

theorem settles_of_no_execution {n : Nat}
    (h : ∀ kind text, outcome n ≠ .error (.execution kind text)) : Settles limit outcome n := by
  cases hout : outcome n with
  | ok v => exact .inl ⟨v, hout⟩
  | error err => exact .inr (.inl ⟨err, hout, fun kind text heq => h kind text (heq ▸ hout)⟩)

/-- **The last attempt is the first that settles the execution.** Each attempt makes one call. -/
theorem attempting_settles (outcome : Nat → Except HubError Json)
    (honce : ∀ e, ∃ e', once none e = (some (outcome (e.state.length + 1)), e') ∧
      e'.state = e.state ++ [call]) (further : Nat) (e : Environment (List Call)) :
    ∃ n e', attempting once further none e = (some (n, outcome (e.state.length + n)), e') ∧
      FirstSettles (further + 1) (fun k => outcome (e.state.length + k)) n ∧
      e'.state = e.state ++ List.replicate n call := by
  induction further generalizing e with
  | zero =>
    obtain ⟨e', hrun, hstate⟩ := honce e
    exact ⟨1, e', attempting_zero hrun, firstSettles_one (.inr (.inr rfl)), hstate⟩
  | succ further ih =>
    obtain ⟨e₁, hrun, hstate⟩ := honce e
    by_cases hfail : ∃ kind text, outcome (e.state.length + 1) = .error (.execution kind text)
    · obtain ⟨kind, text, hfail⟩ := hfail
      obtain ⟨n, e', hrest, hfirst, hcalls⟩ := ih e₁
      have hlength : ∀ k, e₁.state.length + k = e.state.length + (k + 1) := by
        intro k
        rw [hstate, List.length_append, List.length_singleton]
        omega
      simp only [hlength] at hrest hfirst
      refine ⟨n + 1, e', attempting_of_execution (hfail ▸ hrun) hrest,
        hfirst.succ hfail (Nat.succ_ne_zero further), ?_⟩
      rw [hcalls, hstate, List.append_assoc, List.singleton_append, List.replicate_succ]
    · have hother : ∀ kind text, outcome (e.state.length + 1) ≠ .error (.execution kind text) :=
        fun kind text heq => hfail ⟨kind, text, heq⟩
      exact ⟨1, e₁, attempting_of_settled hrun hother,
        firstSettles_one (settles_of_no_execution hother), hstate⟩

end

/-! ## Executions -/

namespace Invoker

variable {i : Invoker (List Call)} {script : Nat → Behaviour}

theorem Follows.work_eq {t : Tool} {call : Parameters → Caller → Call} (h : i.Follows script t call)
    (m : Option Method) (p : Parameters) (caller : Caller) :
    i.work ⟨t, m, p⟩ caller = scripted script (call p caller) := by
  unfold work
  cases h with
  | own himpl =>
    simp only [himpl]
    rfl
  | method hnone hname hexecutor =>
    simp only [hnone, hname, hexecutor]
    rfl

/-- An execution reports its attempts. -/
theorem exists_of_attempting {σ : Type} {i : Invoker σ} {a : Admission} {options : InvokeOptions}
    {d : Option Nat} {e e' : Environment σ} {limit : UInt32} {n : Nat}
    {answer : Except HubError Json} (hlimit : i.maxAttempts? a = some limit)
    (hn : attempting (i.attempt a options) (limit.toNat - 1) d e = (some (n, answer), e')) :
    ∃ r, i.execute a options d e = (some r, e') ∧ r.attempts = n ∧
      r.parameters = a.parameters ∧ r.outcome = .ofResult answer :=
  ⟨_, execute_of_attempting hlimit hn, rfl, rfl, rfl⟩

end Invoker

namespace ToolCall

variable {c : ToolCall} {t : Tool} {e : Environment (List Call)} {script : Nat → Behaviour}

/-- Failed executions may be repeated: the method that the tool names is registered and idempotent,
or there is no such method and the tool has its own implementation or no binding. -/
def Repeats {σ : Type} (c : ToolCall) (i : Invoker σ) (t : Tool) : Prop :=
  (∃ m ∈ c.method? t, m.rules.idempotent = true) ∨
    (c.method? t = none ∧ ((i.implementations.get? t.name).isSome ∨ t.binding = none))

instance {σ : Type} (c : ToolCall) (i : Invoker σ) (t : Tool) : Decidable (c.Repeats i t) := by
  unfold Repeats
  infer_instance

/-- How many attempts are allowed: one more than retries, or one if that wraps around to none. -/
def attemptLimit {σ : Type} (c : ToolCall) (i : Invoker σ) (t : Tool) : Nat :=
  if c.Repeats i t then max 1 (t.rules.maxRetries + 1).toNat else 1

theorem isRetryable_iff {σ : Type} (c : ToolCall) (i : Invoker σ) (t : Tool) (p : Parameters) :
    i.isRetryable ⟨t, c.method? t, p⟩ = true ↔ c.Repeats i t := by
  unfold Invoker.isRetryable Repeats Table.contains Tool.isBound
  cases c.method? t <;> simp

/-- The attempts after the first are those of the limit. -/
theorem succ_of_maxAttempts? {σ : Type} {c : ToolCall} {i : Invoker σ} {t : Tool} {p : Parameters}
    {limit : UInt32} (h : i.maxAttempts? ⟨t, c.method? t, p⟩ = some limit) :
    limit.toNat - 1 + 1 = c.attemptLimit i t := by
  unfold Invoker.maxAttempts? at h
  unfold attemptLimit
  simp only [isRetryable_iff] at h
  split at h
  · rename_i hrepeats
    unfold Overflow.succ? at h
    split at h
    · cases h
    · cases h
      rw [if_pos hrepeats]
      omega
  · rename_i hrepeats
    cases h
    rw [if_neg hrepeats]
    rfl

/-- The limit is one more than the retries, if that fits in 32 bits. -/
theorem attemptLimit_of_lt {σ : Type} {c : ToolCall} {i : Invoker σ} {t : Tool}
    (hrepeats : c.Repeats i t) (h : t.rules.maxRetries.toNat + 1 < UInt32.size) :
    c.attemptLimit i t = t.rules.maxRetries.toNat + 1 := by
  have hsum : (t.rules.maxRetries + 1).toNat = t.rules.maxRetries.toNat + 1 := by
    rw [UInt32.toNat_add]
    exact Nat.mod_eq_of_lt h
  rw [attemptLimit, if_pos hrepeats, hsum]
  omega

/-- **The law of attempts.** An executed call whose work is scripted answers, unless its limit of
attempts overflows in a build that aborts then. It makes the first number of attempts after which the outcome is a success, no failed execution, or that of the last
attempt allowed. Each attempt calls the tool's own implementation, or else the executor, once, with
the validated parameters, and nothing else is called. The result has the outcome of the last. -/
theorem attempts_settle {i : Invoker (List Call)} {call : Parameters → Caller → Call}
    (hexec : c.Executes i e) (ht : c.tool? = some t) (hfollows : i.Follows script t call)
    (hfits : ∀ p, ¬ i.Overflows ⟨t, c.method? t, p⟩) :
    ∃ p r q' e', t.validate c.raw = .ok p ∧ c.invoke i none e = (some (.ok r, q'), e') ∧
      FirstSettles (c.attemptLimit i t)
        (fun k => (script (e.state.length + k)).outcome t.name
          (stricter c.options.timeoutSeconds t.rules.timeoutSeconds)) r.attempts ∧
      e'.state = e.state ++ List.replicate r.attempts (call p c.caller) ∧
      r.parameters = p ∧
      r.outcome = .ofResult ((script (e.state.length + r.attempts)).outcome t.name
        (stricter c.options.timeoutSeconds t.rules.timeoutSeconds)) := by
  obtain ⟨t', p, q', ht', hp, -, hinvoke⟩ := invoke_of_opens (executes_iff_opens.1 hexec)
  obtain rfl : t' = t := Option.some.inj (ht'.symm.trans ht)
  obtain ⟨limit, hlimit⟩ := Invoker.exists_limit_of_not_overflows (hfits p)
  obtain ⟨n, e', hattempts, hfirst, hcalls⟩ := attempting_settles
    (fun k => (script k).outcome t'.name
      (stricter c.options.timeoutSeconds t'.rules.timeoutSeconds))
    (attempt_scripted (hfollows.work_eq (c.method? t') p c.caller))
    (limit.toNat - 1) e
  rw [succ_of_maxAttempts? hlimit] at hfirst
  obtain ⟨r, hexecute, rfl, hparameters, hresult⟩ :=
    Invoker.exists_of_attempting hlimit hattempts
  refine ⟨p, r, q', e', hp, ?_, hfirst, hcalls, hparameters, hresult⟩
  rw [hinvoke, Timed.map_apply, hexecute]

/-- A tool with five seconds for an attempt and two more attempts. -/
def fetch : Tool where
  info := { name := "fetch" }
  rules := { timeoutSeconds := some 5, maxRetries := 2 }

/-- The first call is too slow, the second fails, and any other succeeds just in time. -/
def slowThenLost : Nat → Behaviour
  | 1 => ⟨Timed.nanos 5 + 1, .ok .null⟩
  | 2 => ⟨Timed.nanos 1, .error (.execution "io" "connection lost")⟩
  | _ => ⟨Timed.nanos 5, .ok .null⟩

def fetching : ToolCall where
  catalog := { tools := .replace .empty fetch }
  quota := {}
  name := "fetch"
  raw := .null
  options := { timeoutSeconds := some 8 }

def fetcher : Invoker (List Call) where
  catalog := {}
  implementations := Table.empty.insert "fetch" (scriptedImplementation slowThenLost)

theorem fetching_executes : fetching.Executes fetcher ⟨[], 0, ⟨0⟩, 0⟩ := by
  refine executes_iff_opens.2 fun g => ⟨fetch, rfl, ?_⟩
  cases g with
  | known => trivial
  | permissions => exact ⟨by simp [fetch], fun m hm => by cases hm⟩
  | arguments => exact ⟨.empty, rfl⟩
  | role => exact .inl rfl
  | real => rfl
  | quota => constructor <;> (rintro ⟨n, hn, -⟩; cases hn)
  | _ => simp [Asks, fetch]

/-- A call that is in time at last takes three attempts, each a call of the implementation. -/
theorem fetching_settles :
    fetching.Executes fetcher ⟨[], 0, ⟨0⟩, 0⟩ ∧ fetching.tool? = some fetch ∧
      fetcher.Follows slowThenLost fetch (fun p _ => .own p) ∧
      (∀ p, ¬ fetcher.Overflows ⟨fetch, fetching.method? fetch, p⟩) ∧
      ∃ r q' e', fetching.invoke fetcher none ⟨[], 0, ⟨0⟩, 0⟩ = (some (.ok r, q'), e') ∧
        r.attempts = 3 ∧ r.outcome = .success .null ∧
        e'.state = List.replicate 3 (.own .empty) := by
  have hfollows : fetcher.Follows slowThenLost fetch (fun p _ => .own p) := .own rfl
  have hfits : ∀ p, ¬ fetcher.Overflows ⟨fetch, fetching.method? fetch, p⟩ := by
    rintro p ⟨haborts, -, -⟩
    cases haborts
  refine ⟨fetching_executes, rfl, hfollows, hfits, ?_⟩
  obtain ⟨p, r, q', e', hp, hinvoke, hfirst, hcalls, -, hresult⟩ :=
    attempts_settle fetching_executes rfl hfollows hfits
  have hthree : r.attempts = 3 := by
    refine hfirst.unique ⟨by decide, .inl ⟨.null, rfl⟩, fun m hpos hlt => ?_⟩
    obtain rfl | rfl : m = 1 ∨ m = 2 := by omega
    · exact not_settles_of_execution rfl (by decide)
    · exact not_settles_of_execution rfl (by decide)
  rw [hthree] at hcalls hresult
  cases hp
  exact ⟨r, q', e', hinvoke, hthree, hresult, hcalls⟩

end ToolCall

end CasefileHub
