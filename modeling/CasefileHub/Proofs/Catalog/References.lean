import CasefileHub.Catalog.Consistency
/-!
# References between tools and methods

A builder changes one registry at a time, so a tool can name a method that was never registered or
is gone. Such a reference is *dangling*, and the issues of the catalog list exactly these:

    danglingMethod t.name m ∈ c.consistency ops ↔ m is not registered     (dangling_mem_consistency_iff)
-/

namespace CasefileHub

namespace Catalog

/-- The catalogs that a builder can make. -/
inductive Built : Catalog → Prop
  | empty : Built {}
  | registerModel {c c' : Catalog} {m : Model} : Built c → c.registerModel m = .ok c' → Built c'
  | registerMethod {c c' : Catalog} {m : Method} : Built c → c.registerMethod m = .ok c' → Built c'
  | registerTool {c c' : Catalog} {t : Tool} : Built c → c.registerTool t = .ok c' → Built c'
  | unregisterMethod {c : Catalog} (name : String) : Built c → Built (c.unregisterMethod name)
  | unregisterTool {c : Catalog} (name : String) : Built c → Built (c.unregisterTool name)

theorem tool_name {c : Catalog} {name : String} {t : Tool} (h : c.tool? name = some t) :
    t.name = name :=
  c.tools.named name t h

theorem mem_toolIssues_iff {c : Catalog} {t : Tool} {name m : String} :
    .danglingMethod name m ∈ c.toolIssues t ↔
      t.binding = some m ∧ t.name = name ∧ c.method? m = none := by
  unfold toolIssues
  cases hb : t.binding with
  | none => simp
  | some m' =>
    have hmem : c.methods.contains m' = (c.method? m').isSome := rfl
    simp only [hmem]
    cases hm : c.method? m' with
    | none =>
      simp only [Option.isSome_none, Bool.false_eq_true, if_false, List.mem_singleton,
        ConsistencyIssue.danglingMethod.injEq, Option.some.injEq]
      constructor
      · rintro ⟨rfl, rfl⟩
        exact ⟨rfl, rfl, hm⟩
      · rintro ⟨rfl, rfl, -⟩
        exact ⟨rfl, rfl⟩
    | some method =>
      refine iff_of_false (by simp) ?_
      rintro ⟨heq, -, hnone⟩
      cases heq
      rw [hm] at hnone
      cases hnone

theorem not_mem_methodIssues {c : Catalog} {operations : List String} {method : Method}
    {name m : String} : .danglingMethod name m ∉ c.methodIssues operations method := by
  unfold methodIssues
  simp

/-- The issues name a tool with a binding exactly when the method it is bound to is not there. -/
theorem dangling_mem_consistency_iff {c : Catalog} {name m : String} {t : Tool}
    (ht : c.tool? name = some t) (hb : t.binding = some m) (operations : List String) :
    .danglingMethod name m ∈ c.consistency operations ↔ c.method? m = none := by
  unfold consistency
  rw [List.mem_append, List.mem_flatMap, List.mem_flatMap]
  constructor
  · rintro (⟨t', -, h⟩ | ⟨method, -, h⟩)
    · exact (mem_toolIssues_iff.1 h).2.2
    · exact absurd h not_mem_methodIssues
  · intro hm
    left
    exact ⟨t, Registry.mem_toList_of_get? ht, mem_toolIssues_iff.2 ⟨hb, tool_name ht, hm⟩⟩

end Catalog

end CasefileHub
