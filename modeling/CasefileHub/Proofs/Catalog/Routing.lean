import CasefileHub.Proofs.Invocation.Binding
import CasefileHub.Proofs.Invocation.Payloads
/-!
# Methods without an operation

The issues of a hub name a method as unrouted where no operation has its *name*. A method is executed
by an operation that is *routed* to it, whatever the name of that is. The two are the same only as
far as operations have the names of their methods:

    unroutedMethod m is an issue ↔ no operation has the name m     (unrouted_mem_consistency_iff)
    m is not supported ↔ no operation is routed to m                (executeMethod_unsupported_iff)
    the issue tells whether m is supported ↔ (named ↔ routed)   (unrouted_iff_unsupported_iff)
-/

namespace CasefileHub

variable {σ : Type}

/-! ## The issue -/

namespace Catalog

theorem mem_methodIssues_iff {c : Catalog} {operations : List String} {method : Method}
    {m : String} : .unroutedMethod m ∈ c.methodIssues operations method ↔
      method.name = m ∧ operations ≠ [] ∧ m ∉ operations := by
  unfold methodIssues
  rw [List.mem_append]
  constructor
  · rintro (h | h)
    · split at h <;> simp at h
    · split at h
      · rename_i hcond
        cases List.mem_singleton.1 h
        simp only [Bool.and_eq_true, Bool.not_eq_true', List.isEmpty_eq_false_iff,
          List.contains_eq_mem, decide_eq_false_iff_not] at hcond
        exact ⟨rfl, hcond⟩
      · cases h
  · rintro ⟨rfl, hops, hmem⟩
    right
    rw [if_pos (by simp [hops, hmem])]
    exact List.mem_singleton_self _

theorem not_mem_toolIssues {c : Catalog} {t : Tool} {m : String} :
    .unroutedMethod m ∉ c.toolIssues t := by
  unfold toolIssues
  split <;> split <;> simp

/-- With any operations, the issues name the methods that are registered under no operation's
name. -/
theorem unrouted_mem_consistency_iff {c : Catalog} {operations : List String}
    (hops : operations ≠ []) {m : String} :
    .unroutedMethod m ∈ c.consistency operations ↔
      (c.method? m).isSome = true ∧ m ∉ operations := by
  unfold consistency
  rw [List.mem_append, List.mem_flatMap, List.mem_flatMap]
  constructor
  · rintro (⟨t, -, h⟩ | ⟨method, hmethod, h⟩)
    · exact absurd h not_mem_toolIssues
    · obtain ⟨rfl, -, hmem⟩ := mem_methodIssues_iff.1 h
      have hget : c.method? method.name = some method := Registry.get?_of_mem_toList hmethod
      exact ⟨by rw [hget]; rfl, hmem⟩
  · rintro ⟨hsome, hmem⟩
    obtain ⟨method, hget⟩ := Option.isSome_iff_exists.1 hsome
    have hname : method.name = m := c.methods.named m method hget
    exact .inr ⟨method, Registry.mem_toList_of_get? hget,
      mem_methodIssues_iff.2 ⟨hname, hops, hmem⟩⟩

end Catalog

/-! ## The execution -/

namespace Hub

variable {h : Hub σ} {m : String}

/-- An operation has the name. -/
def Names (h : Hub σ) (name : String) : Prop := name ∈ h.operations.names

/-- An operation is routed to the method. -/
def Routes (h : Hub σ) (method : String) : Prop :=
  ∃ route ∈ h.operations.toList, route.method = method

instance (h : Hub σ) (name : String) : Decidable (h.Names name) :=
  inferInstanceAs (Decidable (name ∈ h.operations.names))

instance (h : Hub σ) (method : String) : Decidable (h.Routes method) :=
  inferInstanceAs (Decidable (∃ route ∈ h.operations.toList, route.method = method))

theorem toMethod?_eq_none_iff : Route.toMethod? h.operations m = none ↔ ¬ h.Routes m := by
  unfold Route.toMethod? Routes
  rw [List.find?_eq_none]
  simp

/-- A method that is routed to is never answered with a protocol error. -/
theorem kind_ne_protocol_of_routes (hm : h.Routes m) {p : Parameters} {caller : Caller}
    {d : Option Nat} {e e' : Environment σ} {err : HubError}
    (hrun : h.executeMethod m p caller d e = (some (.error err), e')) :
    err.kind ≠ "protocol_error" := by
  cases hroute : Route.toMethod? h.operations m with
  | none => exact absurd hm (toMethod?_eq_none_iff.1 hroute)
  | some route =>
    have hlisted : route ∈ h.operations.toList := List.mem_of_find?_eq_some hroute
    obtain ⟨answer, hdispatch, herr⟩ := exists_dispatch_of_executeMethod hroute hrun
    exact kind_ne_protocol_of_dispatch (Registry.get?_of_mem_toList hlisted) hdispatch herr.symm

/-- A method is not supported exactly if no operation is routed to it. -/
theorem executeMethod_unsupported_iff (p : Parameters) (caller : Caller) (d : Option Nat)
    (e : Environment σ) :
    (h.executeMethod m p caller d e).1 = some (.error (.unsupported m)) ↔ ¬ h.Routes m := by
  constructor
  · intro hrun hm
    exact kind_ne_protocol_of_routes hm (Prod.ext hrun rfl) rfl
  · intro hm
    rw [executeMethod_of_none (toMethod?_eq_none_iff.2 hm)]
    rfl

end Hub

/-! ## Tools bound to a method -/

/-- An attempt ends with a protocol error exactly if no operation is routed to the method. -/
theorem Invoker.attempt_protocol_iff {i : Invoker σ} {h : Hub σ} {a : Admission} {m : String}
    (hi : i.LeavesTo a.tool h) (hm : a.tool.methodName = some m) {options : InvokeOptions}
    {d : Option Nat} {e e' : Environment σ} {r : Except HubError Json}
    (hrun : i.attempt a options d e = (some r, e')) :
    (∃ err, r = .error err ∧ err.kind = "protocol_error") ↔ ¬ h.Routes m := by
  have hcall := hi.work hm options.caller
  rcases Invoker.attempt_cases hrun with ⟨inner, e₁, hwork⟩ | ⟨⟨inner, e₁, hwork⟩, s, rfl⟩
  · rw [hcall] at hwork
    constructor
    · rintro ⟨err, rfl, hkind⟩ hroutes
      exact Hub.kind_ne_protocol_of_routes hroutes hwork hkind
    · intro hroutes
      rw [Hub.executeMethod_of_none (Hub.toMethod?_eq_none_iff.2 hroutes)] at hwork
      cases hwork
      exact ⟨_, rfl, rfl⟩
  · -- a method that is not supported is answered at once
    refine iff_of_false ?_ fun hroutes => ?_
    · rintro ⟨err, heq, hkind⟩
      cases heq
      exact absurd hkind (by decide : "timeout" ≠ "protocol_error")
    · rw [hcall, Hub.executeMethod_of_none (Hub.toMethod?_eq_none_iff.2 hroutes)] at hwork
      cases hwork

namespace ToolCall

/-- The result of an executed call is the answer of an attempt. -/
theorem exists_attempt_of_invoke {c : ToolCall} {i : Invoker σ} {t : Tool} (ht : c.tool? = some t)
    {d : Option Nat} {e e' : Environment σ} {r : ToolResult} {q' : Quota}
    (hrun : c.invoke i d e = (some (.ok r, q'), e')) (hpos : 1 ≤ r.attempts) :
    ∃ a answer e₁ e₂, a.tool = t ∧ i.attempt a c.options d e₁ = (some answer, e₂) ∧
      r.outcome = .ofResult answer := by
  obtain hopen | ⟨g, hg⟩ := opens_or_stops c e.now
  · obtain ⟨t', p, q₁, ht', -, -, hexec⟩ := invoke_of_opens hopen
    rw [ht] at ht'
    cases ht'
    rw [hexec] at hrun
    obtain ⟨r', hexecute, hanswer⟩ := Timed.exists_of_map_some hrun
    cases hanswer
    obtain ⟨answer, e₁, e₂, hattempt, houtcome⟩ := Invoker.exists_attempt_of_execute hexecute
    exact ⟨_, answer, e₁, e₂, rfl, hattempt, houtcome⟩
  · obtain ⟨answer, q₁, hans, hsame, -⟩ := invoke_of_stops hg
    rw [hsame] at hrun
    cases hrun
    have := hans.attempts_eq_zero rfl
    omega

end ToolCall

/-! ## The report and the execution -/

namespace Hub

variable {h : Hub σ} {m : String}

/-- The issues of a hub have no dangling reference and no method without an operation. -/
structure Clean (h : Hub σ) : Prop where
  dangling : ∀ tool m, .danglingMethod tool m ∉ h.consistency
  unrouted : ∀ m, .unroutedMethod m ∉ h.consistency

/-- Without issues, an operation has the name of each method that a tool is bound to. -/
theorem Clean.names (hc : h.Clean) (hops : h.operations.names ≠ []) {name : String} {t : Tool}
    (ht : h.catalog.tool? name = some t) (hb : t.binding = some m) : h.Names m := by
  have hm : h.catalog.method? m ≠ none := fun hnone =>
    hc.dangling name m ((Catalog.dangling_mem_consistency_iff ht hb _).2 hnone)
  have hissue := mt (Catalog.unrouted_mem_consistency_iff hops).2 (hc.unrouted m)
  exact Decidable.byContradiction fun hn => hissue ⟨Option.isSome_iff_ne_none.2 hm, hn⟩

/-- Where every operation has the name of its method, names tell the routes. -/
theorem names_iff_routes (h : Hub σ)
    (hname : ∀ route ∈ h.operations.toList, route.method = route.operation) (m : String) :
    h.Names m ↔ h.Routes m := by
  constructor
  · intro hm
    obtain ⟨route, hget⟩ := Option.isSome_iff_exists.1 ((Table.mem_names_iff _ _).1 hm)
    have hlisted : route ∈ h.operations.toList := Registry.mem_toList_of_get? hget
    have hoperation : route.operation = m := h.operations.named m route hget
    exact ⟨route, hlisted, (hname route hlisted).trans hoperation⟩
  · rintro ⟨route, hlisted, rfl⟩
    have hget := Registry.get?_of_mem_toList hlisted
    refine (Table.mem_names_iff _ _).2 (Option.isSome_iff_exists.2 ⟨route, ?_⟩)
    rw [hname route hlisted]
    exact hget

/-- **The issues go by names and the execution by routes.** A registered method is an issue exactly
if no operation has its name, and it is not supported exactly if no operation is routed to it. So
the issue tells whether the method is supported exactly where it is named and routed, or neither. A
hub without issues answers an executed call of a bound tool with a protocol error exactly if no
operation is routed to the method, although one has its name. Where every operation has the name of
its method, the issues are right. -/
theorem unrouted_iff_unsupported_iff (h : Hub σ) (hops : h.operations.names ≠ []) :
    (∀ m, (h.catalog.method? m).isSome = true → ∀ p caller d e,
      (.unroutedMethod m ∈ h.consistency ↔ ¬ h.Names m) ∧
      ((h.executeMethod m p caller d e).1 = some (.error (.unsupported m)) ↔ ¬ h.Routes m) ∧
      ((.unroutedMethod m ∈ h.consistency ↔
          (h.executeMethod m p caller d e).1 = some (.error (.unsupported m))) ↔
        (h.Names m ↔ h.Routes m))) ∧
    (h.Clean → ∀ (c : ToolCall) (i : Invoker σ) t m, c.catalog = h.catalog → c.tool? = some t →
      t.binding = some m → i.LeavesTo t h → ∀ d e r q' e',
        c.invoke i d e = (some (.ok r, q'), e') → 1 ≤ r.attempts →
          h.Names m ∧ ((∃ err, r.outcome = .failure err ∧ err.kind = "protocol_error") ↔
            ¬ h.Routes m)) ∧
    ((∀ route ∈ h.operations.toList, route.method = route.operation) →
      ∀ m, h.Names m ↔ h.Routes m) := by
  refine ⟨fun m hm p caller d e => ?_, fun hclean c i t m hc ht hb hi d e r q' e' hrun hpos => ?_,
    h.names_iff_routes⟩
  · have hissue : .unroutedMethod m ∈ h.consistency ↔ ¬ h.Names m :=
      (Catalog.unrouted_mem_consistency_iff hops).trans (and_iff_right hm)
    have hexecute := h.executeMethod_unsupported_iff (m := m) p caller d e
    refine ⟨hissue, hexecute, ?_⟩
    rw [hissue, hexecute]
    exact Decidable.not_iff_not
  · have hcatalog : h.catalog.tool? c.name = some t := by
      rw [← hc]
      exact ht
    obtain ⟨hname, -⟩ := Option.filter_eq_some_iff.1 hb
    obtain ⟨a, answer, e₁, e₂, rfl, hattempt, houtcome⟩ :=
      ToolCall.exists_attempt_of_invoke ht hrun hpos
    refine ⟨hclean.names hops hcatalog hb, ?_⟩
    rw [← Invoker.attempt_protocol_iff hi hname hattempt, houtcome]
    cases answer <;> simp [ToolOutcome.ofResult]

/-- The built-in hub has no issues, and its issues are right. -/
theorem inMemory_unrouted_iff_unsupported :
    (inMemory {}).Clean ∧
    ∀ m, ((inMemory {}).catalog.method? m).isSome = true → ∀ p caller d e,
      (.unroutedMethod m ∈ (inMemory {}).consistency ↔
        ((inMemory {}).executeMethod m p caller d e).1 = some (.error (.unsupported m))) := by
  have hissues : (inMemory {}).consistency = [] := by decide +kernel
  have hnames : ∀ route ∈ (inMemory {}).operations.toList, route.method = route.operation :=
    fun route hlisted => Route.method_eq_operation
      (Route.mem_builtin_of_get? (Registry.get?_of_mem_toList hlisted))
  refine ⟨⟨by simp [hissues], by simp [hissues]⟩, fun m hm p caller d e => ?_⟩
  obtain ⟨hissue, -, hright⟩ := unrouted_iff_unsupported_iff (inMemory {}) (by decide +kernel)
  exact (hissue m hm p caller d e).2.2.2 (hright hnames m)

/-- A hub that reads casefiles under another name. -/
def detour : Hub Store :=
  { standard ToolCall.readers Store.services {} with
    operations := .replace .empty { Route.getCasefile with operation := "fetch" } }

/-- A hub whose operation has the name of a method, but is routed to another. -/
def misnamed : Hub Store :=
  { standard ToolCall.readers Store.services {} with
    operations := .replace .empty { Route.getCasefile with method := "casefile.fetch" } }

/-- A method that is executed is an issue; and where a method is none, the tool that is bound to it
ends with a protocol error. -/
theorem names_are_no_routes :
    .unroutedMethod OperationName.getCasefile ∈ detour.consistency ∧
    (detour.executeMethod OperationName.getCasefile (.ofList [("casefile_id", .str "cf_1")]) {} none
      ⟨{}, 0, ⟨0⟩, 0⟩).1 = some (.error (.execution "not_found" "Casefile not found: cf_1")) ∧
    misnamed.consistency = [] ∧
    (misnamed.executeMethod OperationName.getCasefile (.ofList [("casefile_id", .str "cf_1")]) {}
      none ⟨{}, 0, ⟨0⟩, 0⟩).1 = some (.error (.unsupported OperationName.getCasefile)) ∧
    (((ToolCall.reading ToolCall.readers ["casefile:read"]).invoke
        { catalog := ToolCall.readers, executor := some misnamed.executeMethod } none ⟨{}, 0, ⟨0⟩, 0⟩).1.bind
          fun (answer, _) => answer.toOption.map ToolResult.outcome) =
      some (.failure (.unsupported OperationName.getCasefile)) := by
  exact ⟨by decide +kernel, rfl, by decide +kernel, rfl, by decide +kernel⟩

end Hub

end CasefileHub
