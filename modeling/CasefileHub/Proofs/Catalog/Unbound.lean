import CasefileHub.Catalog.Builtin
import CasefileHub.Proofs.Catalog.References
import CasefileHub.Proofs.Invocation.Gates
/-!
# Tools without a binding

A tool without a binding names no method, or names one by the empty text. Retries and dangling
references go by the binding. The look-up of the method, the call of the executor, the listings and
the orphans go by the name as it is. All of them agree on a tool that names no method; a tool that
names the empty text is taken by the second kind of readers for one of a method called so.

    t is listed for m ↔ t names m                                    (mem_toolsFor_iff)
    m is an orphan ↔ m is registered and no tool names m             (orphan_mem_consistency_iff)
    no reader takes an unbound t for bound ↔ t does not name ""      (readsUnbound_iff)
-/

namespace CasefileHub

variable {σ : Type}

/-! ## The two readings of a name -/

namespace Tool

variable {t : Tool} {m : String}

theorem binding_eq_some_iff : t.binding = some m ↔ t.methodName = some m ∧ m ≠ "" := by
  unfold binding
  rw [Option.filter_eq_some_iff]
  simp

theorem isBound_eq_false_iff : t.isBound = false ↔ t.methodName = none ∨ t.methodName = some "" := by
  unfold isBound binding
  cases t.methodName <;> simp [Option.filter]

/-- The name and the binding differ in the empty text only. -/
theorem methodName_eq_some_iff :
    t.methodName = some m ↔ t.binding = some m ∨ (m = "" ∧ t.methodName = some "") := by
  rw [binding_eq_some_iff]
  constructor
  · intro h
    by_cases hm : m = ""
    · exact .inr ⟨hm, hm ▸ h⟩
    · exact .inl ⟨h, hm⟩
  · rintro (⟨h, -⟩ | ⟨rfl, h⟩)
    · exact h
    · exact h

end Tool

/-! ## Listings and orphans -/

namespace Catalog

variable {c : Catalog} {t : Tool} {m : String}

theorem mem_toolsFor_iff : t ∈ c.toolsFor m ↔ c.tool? t.name = some t ∧ t.methodName = some m := by
  unfold toolsFor toolsBy
  rw [List.mem_filter, Registry.mem_toList_iff]
  exact and_congr_right' beq_iff_eq

theorem toolsFor_eq_nil_iff :
    c.toolsFor m = [] ↔ ∀ name t, c.tool? name = some t → t.methodName ≠ some m := by
  rw [List.eq_nil_iff_forall_not_mem]
  constructor
  · intro h name t ht hm
    exact h t (mem_toolsFor_iff.2 ⟨(tool_name ht).symm ▸ ht, hm⟩)
  · intro h t ht
    obtain ⟨hget, hm⟩ := mem_toolsFor_iff.1 ht
    exact h t.name t hget hm

theorem orphan_mem_methodIssues_iff {operations : List String} {method : Method} :
    .orphanMethod m ∈ c.methodIssues operations method ↔ method.name = m ∧ c.toolsFor m = [] := by
  unfold methodIssues
  rw [List.mem_append]
  constructor
  · rintro (h | h)
    · split at h
      · rename_i hnone
        cases List.mem_singleton.1 h
        exact ⟨rfl, List.isEmpty_iff.1 hnone⟩
      · cases h
    · split at h <;> simp at h
  · rintro ⟨rfl, hnone⟩
    left
    rw [if_pos (List.isEmpty_iff.2 hnone)]
    exact List.mem_singleton_self _

theorem orphan_not_mem_toolIssues : .orphanMethod m ∉ c.toolIssues t := by
  unfold toolIssues
  split <;> split <;> simp

/-- The orphans are the registered methods that no tool names. -/
theorem orphan_mem_consistency_iff (operations : List String) :
    .orphanMethod m ∈ c.consistency operations ↔ (c.method? m).isSome = true ∧
      ∀ name t, c.tool? name = some t → t.methodName ≠ some m := by
  rw [← toolsFor_eq_nil_iff]
  unfold consistency
  rw [List.mem_append, List.mem_flatMap, List.mem_flatMap]
  constructor
  · rintro (⟨t, -, h⟩ | ⟨method, hmethod, h⟩)
    · exact absurd h orphan_not_mem_toolIssues
    · obtain ⟨rfl, hnone⟩ := orphan_mem_methodIssues_iff.1 h
      have hget : c.method? method.name = some method := Registry.get?_of_mem_toList hmethod
      exact ⟨by rw [hget]; rfl, hnone⟩
  · rintro ⟨hsome, hnone⟩
    obtain ⟨method, hget⟩ := Option.isSome_iff_exists.1 hsome
    have hname : method.name = m := c.methods.named m method hget
    exact .inr ⟨method, Registry.mem_toList_of_get? hget,
      orphan_mem_methodIssues_iff.2 ⟨hname, hnone⟩⟩

/-- By bindings, an orphan is a registered method that no tool is bound to, save that the empty name
is kept from it by any tool that names it. -/
theorem orphan_mem_consistency_iff_binding (operations : List String) :
    .orphanMethod m ∈ c.consistency operations ↔ (c.method? m).isSome = true ∧
      (∀ name t, c.tool? name = some t → t.binding ≠ some m) ∧
      (m = "" → ∀ name t, c.tool? name = some t → t.methodName ≠ some "") := by
  rw [orphan_mem_consistency_iff]
  refine and_congr_right' ⟨fun h => ⟨fun name t ht hb => ?_, ?_⟩, ?_⟩
  · exact h name t ht (Tool.binding_eq_some_iff.1 hb).1
  · rintro rfl
    exact h
  · rintro ⟨hbound, hempty⟩ name t ht hm
    rcases Tool.methodName_eq_some_iff.1 hm with hb | ⟨rfl, hm⟩
    · exact hbound name t ht hb
    · exact hempty rfl name t ht hm

end Catalog

/-! ## Executors -/

namespace Invoker

variable {i j : Invoker σ} {a : Admission}

/-- The same tools, left to another executor. -/
def withExecutor (i : Invoker σ) (x : Option (Executor σ)) : Invoker σ := { i with executor := x }

/-- Without a name, or with an implementation of the tool, the executor is not called. -/
theorem work_withExecutor (h : (i.implementations.get? a.tool.name).isSome = true ∨
    a.tool.methodName = none) (x : Option (Executor σ)) (caller : Caller) :
    (i.withExecutor x).work a caller = i.work a caller := by
  unfold work withExecutor
  cases himp : i.implementations.get? a.tool.name with
  | some implementation => rfl
  | none =>
    rw [himp] at h
    rcases h with h | hname
    · cases h
    · rw [hname]

/-- The work of a tool that nothing implements is that of the executor under the tool's name of the
method. -/
theorem work_of_methodName {m : String} (hi : i.implementations.get? a.tool.name = none)
    (hm : a.tool.methodName = some m) (x : Executor σ) (caller : Caller) :
    (i.withExecutor (some x)).work a caller = x m a.parameters caller := by
  simp only [work, withExecutor, hi, hm]

/-- Executions differ at most in the work. -/
theorem execute_of_work_eq (hi : i.implementations = j.implementations)
    (ho : i.overflow = j.overflow) (h : ∀ caller, i.work a caller = j.work a caller) (options : InvokeOptions) :
    i.execute a options = j.execute a options := by
  have hattempt : i.attempt a options = j.attempt a options := by
    unfold attempt
    rw [h]
  have hlimit : i.maxAttempts? a = j.maxAttempts? a := by
    unfold maxAttempts? isRetryable
    rw [hi, ho]
  unfold execute executeUpTo
  rw [hattempt, hlimit]

end Invoker

/-! ## Calls -/

namespace ToolCall

variable {c : ToolCall} {t : Tool}

/-- The same call over other methods. -/
def withMethods (c : ToolCall) (methods : Registry Method) : ToolCall :=
  { c with catalog := { c.catalog with methods := methods } }

/-- A call looks at no method but the one that the tool names, and at the executor for the work
only. -/
theorem invoke_withMethods_withExecutor (ht : c.tool? = some t) {methods : Registry Method}
    (hm : (c.withMethods methods).method? t = c.method? t) {i : Invoker σ}
    {x : Option (Executor σ)}
    (hx : ∀ p caller, (i.withExecutor x).work ⟨t, c.method? t, p⟩ caller =
      i.work ⟨t, c.method? t, p⟩ caller) (d : Option Nat) (e : Environment σ) :
    (c.withMethods methods).invoke (i.withExecutor x) d e = c.invoke i d e := by
  have hcall : Admission.ofCall (c.withMethods methods).catalog c.name c.raw c.caller =
      Admission.ofCall c.catalog c.name c.raw c.caller := by
    have ht' : (c.withMethods methods).tool? = some t := ht
    rw [ofCall_of_tool ht, ← hm]
    exact ofCall_of_tool ht'
  cases hadm : Admission.ofCall c.catalog c.name c.raw c.caller with
  | error err =>
    rw [invoke_of_refusal hadm, invoke_of_refusal (hcall.trans hadm)]
    rfl
  | ok a =>
    obtain ⟨p, -, rfl⟩ := exists_of_admission ht hadm
    cases hdry : c.options.dryRun with
    | true =>
      rw [invoke_of_dryRun hadm hdry, invoke_of_dryRun (hcall.trans hadm) hdry]
      rfl
    | false =>
      have hexecute : (i.withExecutor x).execute ⟨t, c.method? t, p⟩ c.options =
          i.execute ⟨t, c.method? t, p⟩ c.options :=
        Invoker.execute_of_work_eq (i := i.withExecutor x) (j := i) rfl rfl (hx p) c.options
      obtain ⟨r, q', htake⟩ : ∃ r q',
        c.quota.take e.now c.name t.rules.perMinute t.rules.perHour = (r, q') := ⟨_, _, rfl⟩
      rw [invoke_of_admission hadm hdry htake, invoke_of_admission (hcall.trans hadm) hdry htake,
        show (c.withMethods methods).options = c.options from rfl, hexecute]
      cases r <;> rfl

/-- No reader takes a tool for bound: its calls depend neither on the executor nor on a method, and it
is listed for none. -/
structure ReadsUnbound (c : ToolCall) (t : Tool) : Prop where
  calls : ∀ (σ : Type) (i : Invoker σ) x methods d e,
    (c.withMethods methods).invoke (i.withExecutor x) d e = c.invoke i d e
  listed : ∀ m, t ∉ c.catalog.toolsFor m

theorem readsUnbound_of_none (ht : c.tool? = some t) (hname : t.methodName = none) :
    c.ReadsUnbound t where
  calls σ i x methods d e := by
    have hm : (c.withMethods methods).method? t = c.method? t := by
      unfold method?
      rw [hname]
      rfl
    refine invoke_withMethods_withExecutor ht hm (fun p caller => ?_) d e
    exact Invoker.work_withExecutor (.inr hname) x caller
  listed m hmem := by
    rw [(Catalog.mem_toolsFor_iff.1 hmem).2] at hname
    cases hname

theorem mem_toolsFor_iff_of_empty (ht : c.tool? = some t) (hname : t.methodName = some "")
    (m : String) : t ∈ c.catalog.toolsFor m ↔ m = "" := by
  have hget : c.catalog.tool? t.name = some t := (Catalog.tool_name ht).symm ▸ ht
  rw [Catalog.mem_toolsFor_iff, hname, and_iff_right hget, Option.some.injEq, eq_comm]

/-- **The readers of a binding agree on a tool without one exactly where it names no method.** Then
neither the executor nor a method matters to its calls, and it is listed for none. A tool that names
the empty text is listed for that name, looks up a method of that name, and without an implementation
of its own its work is that of the executor under that name; with one, only that method matters. The
orphans are the registered methods that no tool is bound to, save that a tool that names the empty
text keeps a method of that name from them. -/
theorem readsUnbound_iff_names_none (ht : c.tool? = some t) (hb : t.isBound = false) :
    (c.ReadsUnbound t ↔ t.methodName = none) ∧
    (t.methodName ≠ none →
      (∀ m, t ∈ c.catalog.toolsFor m ↔ m = "") ∧
      c.method? t = c.catalog.method? "" ∧
      (∀ (i : Invoker σ) x p caller, i.implementations.get? t.name = none →
        (i.withExecutor (some x)).work ⟨t, c.method? t, p⟩ caller = x "" p caller) ∧
      (∀ (i : Invoker σ) x methods, (i.implementations.get? t.name).isSome = true →
        methods.get? "" = c.catalog.method? "" → ∀ d e,
          (c.withMethods methods).invoke (i.withExecutor x) d e = c.invoke i d e)) ∧
    ∀ operations m, (.orphanMethod m ∈ c.catalog.consistency operations ↔
      (c.catalog.method? m).isSome = true ∧
      (∀ name t', c.catalog.tool? name = some t' → t'.binding ≠ some m) ∧
      (m = "" → ∀ name t', c.catalog.tool? name = some t' → t'.methodName ≠ some "")) := by
  have hcases := Tool.isBound_eq_false_iff.1 hb
  refine ⟨⟨fun h => ?_, readsUnbound_of_none ht⟩, fun hsome => ?_, fun operations m =>
    Catalog.orphan_mem_consistency_iff_binding operations⟩
  · refine hcases.resolve_right fun hempty => h.listed "" ?_
    exact (mem_toolsFor_iff_of_empty ht hempty "").2 rfl
  · have hempty := hcases.resolve_left hsome
    have hlookup : c.method? t = c.catalog.method? "" := by
      rw [method?, hempty, Option.bind_some]
    refine ⟨mem_toolsFor_iff_of_empty ht hempty, hlookup, fun i x p caller himp => ?_,
      fun i x methods himp hmethods d e => ?_⟩
    · exact Invoker.work_of_methodName himp hempty x caller
    · have hm : (c.withMethods methods).method? t = c.method? t := by
        rw [hlookup, method?, hempty, Option.bind_some]
        exact hmethods
      refine invoke_withMethods_withExecutor ht hm (fun p caller => ?_) d e
      exact Invoker.work_withExecutor (.inl himp) x caller

/-! ## A tool with an empty name of a method -/

/-- A tool by itself. -/
def memo : Tool := { info := { name := "memo" } }

/-- A tool that names a method by the empty text. -/
def blank : Tool := { info := { name := "blank" }, methodName := some "" }

/-- A method that is called by the empty text. -/
def nameless : Method := { Method.getCasefile with name := "", parameters := [] }

def blanks : Catalog where
  methods := .replace .empty nameless
  tools := .replace (.replace .empty blank) memo

theorem blanks_built : blanks.Built :=
  .registerTool (.registerTool (.registerMethod (m := nameless) .empty rfl) (t := blank) rfl)
    (t := memo) rfl

/-- An invoker without a catalog of its own, for calls that bring theirs. -/
def executedBy {σ : Type} (x : Executor σ) : Invoker σ := { catalog := {}, executor := some x }

/-- A call without arguments and permissions. -/
def plain (catalog : Catalog) (name : String) : ToolCall where
  catalog := catalog
  quota := {}
  name := name
  raw := .obj []
  options := {}

/-- An executor that counts its calls. -/
def counting : Executor Nat := fun m _ _ => do
  Timed.modify (· + 1)
  return .ok (.str m)

/-- A tool that names no method is read as unbound. -/
theorem memo_readsUnbound :
    (plain blanks "memo").tool? = some memo ∧ memo.isBound = false ∧
      (plain blanks "memo").ReadsUnbound memo :=
  ⟨by decide +kernel, rfl,
    (readsUnbound_iff_names_none (σ := Nat) (by decide +kernel) rfl).1.2 rfl⟩

/-- A call of an unbound tool calls the executor, unless a method that it does not name forbids it; it
is listed for that method, which is no orphan although no tool is bound to it. -/
theorem blank_calls_executor :
    blanks.Built ∧ blanks.tool? "blank" = some blank ∧ blank.isBound = false ∧
    (((plain (blanks.unregisterMethod "") "blank").invoke (executedBy counting) none
      ⟨0, 0, ⟨0⟩, 0⟩).2.state = 1) ∧
    (((plain blanks "blank").invoke (executedBy counting) none ⟨0, 0, ⟨0⟩, 0⟩).1.map Prod.fst =
      some (.error (.missingPermissions "blank" ["casefile:read"]))) ∧
    blank ∈ blanks.toolsFor "" ∧
    (blanks.method? "").isSome = true ∧ (∀ name t, blanks.tool? name = some t → t.binding ≠ some "") ∧
    .orphanMethod "" ∉ blanks.consistency [] := by
  refine ⟨blanks_built, by decide +kernel, rfl, by decide +kernel, rfl, by decide +kernel,
    by decide +kernel, fun name t ht hb => ?_, by decide +kernel⟩
  exact (Tool.binding_eq_some_iff.1 hb).2 rfl

end ToolCall

end CasefileHub
