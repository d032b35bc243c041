import CasefileHub.Proofs.Invocation.Attempts
import CasefileHub.Proofs.Invocation.Binding
/-!
# Retries

A second attempt follows the first exactly if that is a failed execution, the rules of the tool allow
one more, and the call repeats failed executions. For a tool that is bound to a method this is so if
the method is registered and idempotent; but also if the method is gone and the tool has its own
implementation, which is then repeated although nothing says that it may be:

    1 < r.attempts ↔ c is executed, repeats, and its first attempt fails      (one_lt_attempts_iff)
    a call of a bound tool is repeated → its method is idempotent ↔ the reference is not dangling
                                                          (repeated_idempotent_iff_registered)
-/

namespace CasefileHub

variable {σ : Type}

/-! ## Executions -/

/-- A second attempt is made exactly if one more is allowed and the first is a failed execution. -/
theorem one_lt_attempting_iff {once : Timed σ (Except HubError Json)} {further n : Nat}
    {r : Except HubError Json} {d : Option Nat} {e e' : Environment σ}
    (h : attempting once further d e = (some (n, r), e')) :
    1 < n ↔ 0 < further ∧ ∃ kind text e₁, once d e = (some (.error (.execution kind text)), e₁) := by
  constructor
  · intro hn
    rcases attempting_cases h with ⟨rfl, -⟩ | ⟨kind, text, e₁, further', n', rfl, -, hrun, -⟩
    · omega
    · exact ⟨Nat.succ_pos further', kind, text, e₁, hrun⟩
  · rintro ⟨hpos, kind, text, e₁, hrun⟩
    obtain ⟨further', rfl⟩ := Nat.exists_eq_add_of_le' hpos
    rcases attempting_cases h with ⟨rfl, hlast⟩ | ⟨_, _, _, _, n', -, rfl, -, hrest⟩
    · -- the only attempt is a failed execution, so the others would have followed it
      rw [attempting, Timed.bind_apply, hrun] at h
      obtain ⟨⟨n', r'⟩, e₂, hmore, hlast⟩ := Timed.exists_of_bind_some h
      cases hlast
      have := attempting_pos hmore
      omega
    · have := attempting_pos hrest
      omega

theorem Invoker.one_lt_attempts_of_execute_iff {i : Invoker σ} {a : Admission}
    {options : InvokeOptions} {d : Option Nat} {e e' : Environment σ} {r : ToolResult}
    (h : i.execute a options d e = (some r, e')) :
    ∃ limit, i.maxAttempts? a = some limit ∧ (1 < r.attempts ↔ 0 < limit.toNat - 1 ∧
      ∃ kind text e₁, i.attempt a options d e = (some (.error (.execution kind text)), e₁)) := by
  obtain ⟨limit, answer, hlimit, hn, -⟩ := exists_limit_of_execute h
  exact ⟨limit, hlimit, one_lt_attempting_iff hn⟩

/-- Some retries are allowed, and one more fits in 32 bits. -/
def ToolRules.Retries (r : ToolRules) : Prop :=
  0 < r.maxRetries ∧ r.maxRetries.toNat + 1 < UInt32.size

namespace ToolCall

variable {c : ToolCall} {t : Tool} {m : String} {i : Invoker σ} {d : Option Nat}
  {e e' : Environment σ} {r : ToolResult} {q' : Quota}

/-! ## Calls -/

/-- The first attempt that the call makes is a failed execution. -/
def FailsAtFirst (c : ToolCall) (i : Invoker σ) (t : Tool) (d : Option Nat) (e : Environment σ) :
    Prop :=
  ∃ p kind text e₁, t.validate c.raw = .ok p ∧
    i.attempt ⟨t, c.method? t, p⟩ c.options d e = (some (.error (.execution kind text)), e₁)

/-- A number of retries that wraps around allows none. -/
theorem one_lt_attemptLimit_iff (c : ToolCall) (i : Invoker σ) (t : Tool) :
    1 < c.attemptLimit i t ↔ c.Repeats i t ∧ t.rules.Retries := by
  by_cases hrepeats : c.Repeats i t
  · rw [and_iff_right hrepeats, ToolRules.Retries, UInt32.lt_iff_toNat_lt]
    by_cases hfits : t.rules.maxRetries.toNat + 1 < UInt32.size
    · rw [attemptLimit_of_lt hrepeats hfits, and_iff_left hfits]
      simp
    · have hmost : t.rules.maxRetries.toNat + 1 = UInt32.size :=
        Nat.le_antisymm t.rules.maxRetries.toNat_lt (Nat.not_lt.1 hfits)
      have hsum : (t.rules.maxRetries + 1).toNat = 0 := by
        rw [UInt32.toNat_add]
        exact hmost ▸ rfl
      rw [attemptLimit, if_pos hrepeats, hsum]
      exact iff_of_false (by decide) fun h => hfits h.2
  · rw [attemptLimit, if_neg hrepeats]
    exact iff_of_false (by decide) fun h => hrepeats h.1

/-- **A failed execution is repeated exactly where the call repeats and a retry is left.** -/
theorem one_lt_attempts_iff (ht : c.tool? = some t)
    (hrun : c.invoke i d e = (some (.ok r, q'), e')) :
    1 < r.attempts ↔ c.Executes i e ∧ c.FailsAtFirst i t d e ∧ c.Repeats i t ∧
      t.rules.Retries := by
  obtain hopen | ⟨g, hg⟩ := opens_or_stops c e.now
  · obtain ⟨t', p, q₁, ht', hp, -, hexec⟩ := invoke_of_opens hopen
    obtain rfl : t' = t := Option.some.inj (ht'.symm.trans ht)
    rw [hexec] at hrun
    obtain ⟨r', hexecute, hanswer⟩ := Timed.exists_of_map_some hrun
    cases hanswer
    obtain ⟨limit, hlimit, hmore⟩ := Invoker.one_lt_attempts_of_execute_iff hexecute
    have hleft : 0 < limit.toNat - 1 ↔ 1 < c.attemptLimit i t' := by
      rw [← succ_of_maxAttempts? hlimit]
      omega
    rw [hmore, hleft, one_lt_attemptLimit_iff]
    constructor
    · rintro ⟨hrepeats, kind, text, e₁, hfail⟩
      exact ⟨executes_iff_opens.2 hopen, ⟨p, kind, text, e₁, hp, hfail⟩, hrepeats⟩
    · rintro ⟨-, ⟨p', kind, text, e₁, hp', hfail⟩, hrepeats⟩
      cases hp.symm.trans hp'
      exact ⟨hrepeats, kind, text, e₁, hfail⟩
  · obtain ⟨answer, q₁, hans, hsame, -⟩ := invoke_of_stops hg
    rw [hsame] at hrun
    cases hrun
    refine iff_of_false ?_ fun h => not_executes_of_stops hg h.1
    have := hans.attempts_eq_zero rfl
    omega

/-! ## Bound tools -/

/-- The method is registered in the catalog of the call, and marked as idempotent. -/
def Idempotent (c : ToolCall) (m : String) : Prop :=
  ∃ method, c.catalog.method? m = some method ∧ method.rules.idempotent = true

theorem repeats_iff_of_binding (hb : t.binding = some m) :
    c.Repeats i t ↔ c.Idempotent m ∨
      (c.catalog.method? m = none ∧ (i.implementations.get? t.name).isSome = true) := by
  simp [Repeats, Idempotent, method?_of_binding hb, hb]

theorem isSome_of_idempotent (h : c.Idempotent m) : (c.catalog.method? m).isSome = true := by
  obtain ⟨method, hm, -⟩ := h
  rw [hm]
  rfl

/-- **Only idempotent methods are retried exactly where the reference is not dangling.** More than one
attempt is made of a call of a bound tool if and only if it is executed, its first attempt is a failed
execution, a retry is left and one more than the retries fits in 32 bits, and the method is registered
and idempotent, or else it is gone and the tool has its own implementation. So of the calls that are repeated, those have an idempotent method
whose reference no issue of the catalog names; the others repeat an implementation for which no
method answers. -/
theorem repeated_idempotent_iff_registered (ht : c.tool? = some t) (hb : t.binding = some m)
    (hrun : c.invoke i d e = (some (.ok r, q'), e')) :
    (1 < r.attempts ↔ c.Executes i e ∧ c.FailsAtFirst i t d e ∧
      (0 < t.rules.maxRetries ∧ t.rules.maxRetries.toNat + 1 < UInt32.size) ∧
      (c.Idempotent m ∨
        (c.catalog.method? m = none ∧ (i.implementations.get? t.name).isSome = true))) ∧
    (1 < r.attempts → (c.Idempotent m ↔
      ∀ operations, .danglingMethod c.name m ∉ c.catalog.consistency operations)) := by
  have hmore := one_lt_attempts_iff ht hrun
  rw [repeats_iff_of_binding hb] at hmore
  refine ⟨?_, fun h => ⟨fun hidempotent operations hmem => ?_, fun hissues => ?_⟩⟩
  · rw [hmore, and_comm (b := t.rules.Retries)]
    rfl
  · have hgone := (Catalog.dangling_mem_consistency_iff ht hb operations).1 hmem
    have hthere := isSome_of_idempotent hidempotent
    rw [hgone] at hthere
    cases hthere
  · obtain ⟨-, -, hidempotent | ⟨hgone, -⟩, -⟩ := hmore.1 h
    · exact hidempotent
    · exact absurd ((Catalog.dangling_mem_consistency_iff ht hb []).2 hgone) (hissues [])

/-! ## A tool with its own implementation -/

/-- A tool that is bound to a method, and may try once more. -/
def saver : Tool :=
  { info := { name := "save" }, rules := { maxRetries := 1 }, methodName := some "casefile.save" }

/-- A catalog of the tool alone. -/
def unsaved : Catalog := { tools := .replace .empty saver }

/-- The same catalog with the method, which is idempotent. -/
def saved : Catalog :=
  { unsaved with
    methods := .replace .empty
      { Method.getCasefile with name := "casefile.save", rules := { idempotent := true } } }

theorem unsaved_built : unsaved.Built := .registerTool .empty (t := saver) rfl

/-- An implementation of the tool that counts its calls and fails. -/
def failing : Invoker Nat where
  catalog := {}
  implementations := Table.empty.insert "save" fun _ => do
    Timed.modify (· + 1)
    return .error (.execution "unavailable" "store down")

/-- A call of the tool. -/
def saving (catalog : Catalog) : ToolCall where
  catalog := catalog
  quota := {}
  name := "save"
  raw := .obj []
  options := {}

/-- With its method the tool is tried twice, and the method is idempotent. -/
theorem saving_repeats_idempotent :
    ∃ r q' e', (saving saved).invoke failing none ⟨0, 0, ⟨0⟩, 0⟩ = (some (.ok r, q'), e') ∧
      r.attempts = 2 ∧ e'.state = 2 ∧ (saving saved).Idempotent "casefile.save" := by
  refine ⟨_, _, _, rfl, rfl, rfl, ?_⟩
  have hlaw := repeated_idempotent_iff_registered (c := saving saved) (t := saver)
    (m := "casefile.save") (i := failing) (d := none) (e := ⟨0, 0, ⟨0⟩, 0⟩) rfl rfl rfl
  obtain ⟨-, -, -, hidempotent | ⟨hgone, -⟩⟩ := hlaw.1.1 (by decide)
  · exact hidempotent
  · cases hgone

/-- Without its method the tool is tried twice as well: its implementation is called again, although
no method is idempotent. -/
theorem unsaved_repeats :
    unsaved.Built ∧ unsaved.tool? "save" = some saver ∧ saver.binding = some "casefile.save" ∧
    (∃ r q' e', (saving unsaved).invoke failing none ⟨0, 0, ⟨0⟩, 0⟩ = (some (.ok r, q'), e') ∧
      1 < r.attempts ∧ e'.state = 2) ∧
    ¬ (saving unsaved).Idempotent "casefile.save" := by
  refine ⟨unsaved_built, rfl, rfl, ⟨_, _, _, rfl, by decide, rfl⟩, ?_⟩
  rintro ⟨method, hm, -⟩
  cases hm

end ToolCall

end CasefileHub
