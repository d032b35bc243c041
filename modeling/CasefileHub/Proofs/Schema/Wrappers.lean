import Mathlib.Data.List.Perm.Subperm
import Mathlib.Logic.Relation
import Mathlib.Order.WellFoundedSet
import CasefileHub.Schema.Parameters
/-!
# Parameters behind wrappers

A wrapper wraps another schema, by a reference to a definition or as the one member of a
combination. From a schema a chain of wrappers leads to its core, which is none. Schemas of a chain
do not repeat, and all of them stand in the root schema, so the limit on wrappers is never met:

    s unwraps to core by a chain → the facts of s are those of core, with the outermost remarks
                                                                              (unwrap_of_unwraps)
    a chain is no longer than there are schemas                               (Unwraps.length_le)
    no definition wraps itself → every property unwraps to a core             (exists_unwraps)
-/

namespace CasefileHub

namespace Schema

/-! ## Names of definitions -/

/-- The path in front of the name of a definition. -/
def definitionsPath : List Char := "#/definitions/".toList

/-- The reference is the path, any number of times, and then a name that does not begin with it. -/
def Names (reference name : String) : Prop :=
  ∃ k, reference.toList = (List.replicate k definitionsPath).flatten ++ name.toList ∧
    ¬ definitionsPath <+: name.toList

theorem stripPath_spec {path : List Char} (hpath : path ≠ []) {fuel : Nat} {cs : List Char}
    (hfuel : cs.length ≤ fuel) :
    (∃ k, cs = (List.replicate k path).flatten ++ stripPath path fuel cs) ∧
      ¬ path <+: stripPath path fuel cs := by
  induction fuel generalizing cs with
  | zero =>
    obtain rfl : cs = [] := List.eq_nil_of_length_eq_zero (Nat.le_zero.1 hfuel)
    exact ⟨⟨0, rfl⟩, fun h => hpath (List.prefix_nil.1 h)⟩
  | succ fuel ih =>
    unfold stripPath
    split
    · rename_i hprefix
      obtain ⟨rest, rfl⟩ := List.isPrefixOf_iff_prefix.1 hprefix
      rw [List.drop_left]
      have hpos : 0 < path.length := List.length_pos_iff.2 hpath
      have hrest : rest.length ≤ fuel := by
        rw [List.length_append] at hfuel
        omega
      obtain ⟨⟨k, hk⟩, hnot⟩ := ih hrest
      refine ⟨⟨k + 1, ?_⟩, hnot⟩
      rw [List.replicate_succ, List.flatten_cons, List.append_assoc, ← hk]
    · rename_i hprefix
      exact ⟨⟨0, rfl⟩, fun h => hprefix (List.isPrefixOf_iff_prefix.2 h)⟩

/-- What is left behind a repeated path does not depend on how it is read. -/
theorem eq_of_replicate_append {path xs ys : List Char} {k l : Nat} (hx : ¬ path <+: xs)
    (hy : ¬ path <+: ys)
    (h : (List.replicate k path).flatten ++ xs = (List.replicate l path).flatten ++ ys) :
    xs = ys := by
  induction k generalizing l with
  | zero =>
    cases l with
    | zero => exact h
    | succ l =>
      refine absurd ?_ hx
      simp only [List.replicate_zero, List.flatten_nil, List.nil_append] at h
      rw [h, List.replicate_succ, List.flatten_cons, List.append_assoc]
      exact List.prefix_append _ _
  | succ k ih =>
    cases l with
    | zero =>
      refine absurd ?_ hy
      simp only [List.replicate_zero, List.flatten_nil, List.nil_append] at h
      rw [← h, List.replicate_succ, List.flatten_cons, List.append_assoc]
      exact List.prefix_append _ _
    | succ l =>
      simp only [List.replicate_succ, List.flatten_cons, List.append_assoc] at h
      exact ih (List.append_cancel_left h)

theorem definitionName_eq_iff {reference name : String} :
    definitionName reference = name ↔ Names reference name := by
  have hpath : definitionsPath ≠ [] := by decide
  obtain ⟨⟨k, hk⟩, hnot⟩ := stripPath_spec hpath (Nat.le_refl reference.toList.length)
  constructor
  · rintro rfl
    refine ⟨k, ?_, ?_⟩
    · rw [definitionName, String.toList_ofList]
      exact hk
    · rw [definitionName, String.toList_ofList]
      exact hnot
  · rintro ⟨l, hl, hname⟩
    rw [definitionName, ← String.toList_inj, String.toList_ofList]
    exact eq_of_replicate_append hnot hname (hk.symm.trans hl)

/-! ## Wrappers -/

variable {definitions : List (String × Schema)} {s t u core core' : Schema}
  {chain chain' : List Schema}

/-- A schema is a wrapper around another one: it refers to a definition; or it does not, and of the
first combination that it has all members but one are null. -/
inductive Wraps (definitions : List (String × Schema)) : Schema → Schema → Prop
  | reference {facts : SchemaFacts} {anyOf allOf oneOf : Option (List Schema)}
      {properties : List (String × Schema)} {reference name : String} {target : Schema}
      (refers : facts.reference = some reference) (names : Names reference name)
      (defined : definitions.lookup name = some target) :
      Wraps definitions (.keywords facts anyOf allOf oneOf properties) target
  | combination {facts : SchemaFacts} {anyOf allOf oneOf : Option (List Schema)}
      {properties : List (String × Schema)} {members : List Schema} {member : Schema}
      (undefined : ∀ reference name, facts.reference = some reference → Names reference name →
        definitions.lookup name = none)
      (first : anyOf.or (allOf.or oneOf) = some members)
      (sole : members.filter (!·.isNull) = [member]) :
      Wraps definitions (.keywords facts anyOf allOf oneOf properties) member

theorem step_eq_some_iff : step definitions s = some t ↔ Wraps definitions s t := by
  cases s with
  | trivial b =>
    refine iff_of_false (by simp [step]) ?_
    rintro ⟨⟩
  | keywords facts anyOf allOf oneOf properties =>
    cases htarget : facts.reference.bind fun r => definitions.lookup (definitionName r) with
    | some target =>
      obtain ⟨r, hr, hlookup⟩ := Option.bind_eq_some_iff.1 htarget
      simp only [step, htarget, Option.some.injEq]
      constructor
      · rintro rfl
        exact .reference hr (definitionName_eq_iff.1 rfl) hlookup
      · intro h
        cases h with
        | reference refers names defined =>
          obtain rfl := Option.some.inj (hr.symm.trans refers)
          obtain rfl := definitionName_eq_iff.2 names
          exact Option.some.inj (hlookup.symm.trans defined)
        | combination undefined first sole =>
          rw [undefined r _ hr (definitionName_eq_iff.1 rfl)] at hlookup
          cases hlookup
    | none =>
      have hundefined : ∀ r name, facts.reference = some r → Names r name →
          definitions.lookup name = none := by
        intro r name hr hname
        obtain rfl := definitionName_eq_iff.2 hname
        rw [hr] at htarget
        exact htarget
      simp only [step, htarget]
      constructor
      · intro h
        split at h
        · rename_i member hmember
          obtain ⟨members, hfirst, hsole⟩ := Option.map_eq_some_iff.1 hmember
          cases h
          exact .combination hundefined hfirst hsole
        · cases h
      · intro h
        cases h with
        | reference refers names defined =>
          rw [hundefined _ _ refers names] at defined
          cases defined
        | combination undefined first sole => simp [first, sole]

theorem step_eq_none (h : ∀ t, ¬ Wraps definitions s t) : step definitions s = none :=
  Option.eq_none_iff_forall_ne_some.2 fun t ht => h t (step_eq_some_iff.1 ht)

theorem Wraps.unique (h : Wraps definitions s t) (h' : Wraps definitions s u) : t = u :=
  Option.some.inj ((step_eq_some_iff.2 h).symm.trans (step_eq_some_iff.2 h'))

/-! ## Chains of wrappers -/

/-- A schema is wrapped around a core, which is no wrapper; the chain goes from the one to the
other. -/
inductive Unwraps (definitions : List (String × Schema)) : Schema → List Schema → Schema → Prop
  | core {s : Schema} (bare : ∀ t, ¬ Wraps definitions s t) : Unwraps definitions s [s] s
  | wrapper {s t core : Schema} {chain : List Schema} (wraps : Wraps definitions s t)
      (rest : Unwraps definitions t chain core) : Unwraps definitions s (s :: chain) core

theorem Unwraps.unique (h : Unwraps definitions s chain core)
    (h' : Unwraps definitions s chain' core') : chain = chain' ∧ core = core' := by
  induction h generalizing chain' core' with
  | core bare =>
    cases h' with
    | core => exact ⟨rfl, rfl⟩
    | wrapper wraps => exact absurd wraps (bare _)
  | wrapper wraps rest ih =>
    cases h' with
    | core bare => exact absurd wraps (bare _)
    | wrapper wraps' rest' =>
      obtain rfl := wraps.unique wraps'
      obtain ⟨rfl, rfl⟩ := ih rest'
      exact ⟨rfl, rfl⟩

/-- From every schema of a chain, a chain that is no longer leads on. -/
theorem Unwraps.exists_of_mem (h : Unwraps definitions s chain core) (ht : t ∈ chain) :
    ∃ rest, Unwraps definitions t rest core ∧ rest.length ≤ chain.length := by
  induction h with
  | core bare =>
    obtain rfl := List.mem_singleton.1 ht
    exact ⟨_, .core bare, Nat.le_refl _⟩
  | wrapper wraps rest ih =>
    rcases List.mem_cons.1 ht with rfl | ht
    · exact ⟨_, .wrapper wraps rest, Nat.le_refl _⟩
    · obtain ⟨later, hlater, hle⟩ := ih ht
      exact ⟨later, hlater, Nat.le_succ_of_le hle⟩

/-- No schema stands in a chain twice: what follows it would be of two lengths. -/
theorem Unwraps.nodup (h : Unwraps definitions s chain core) : chain.Nodup := by
  induction h with
  | core => exact List.nodup_singleton _
  | wrapper wraps rest ih =>
    refine List.nodup_cons.2 ⟨fun hmem => ?_, ih⟩
    obtain ⟨later, hlater, hle⟩ := rest.exists_of_mem hmem
    obtain ⟨rfl, -⟩ := hlater.unique (.wrapper wraps rest)
    rw [List.length_cons] at hle
    omega

theorem remarks_factsOf (s : Schema) : { s.factsOf with remarks := s.remarks } = s.factsOf := by
  cases s <;> rfl

/-- **The facts behind a chain are those of its core**, under the outermost remarks. -/
theorem unwrap_of_unwraps (h : Unwraps definitions s chain core) {fuel : Nat}
    (hfuel : chain.length ≤ fuel + 1) :
    unwrap definitions fuel s = { core.factsOf with remarks := chain.findSome? remarks } := by
  induction h generalizing fuel with
  | @core s bare =>
    have hremarks : [s].findSome? remarks = s.remarks := by
      rw [List.findSome?_cons, List.findSome?_nil]
      cases s.remarks <;> rfl
    rw [hremarks, remarks_factsOf]
    cases fuel with
    | zero => rfl
    | succ fuel => rw [unwrap, step_eq_none bare]
  | @wrapper s t core chain wraps rest ih =>
    cases fuel with
    | zero => cases rest <;> simp at hfuel
    | succ fuel =>
      have hlength : chain.length ≤ fuel + 1 := Nat.le_of_succ_le_succ hfuel
      rw [unwrap, step_eq_some_iff.2 wraps]
      simp only [ih hlength, List.findSome?_cons]
      cases s.remarks <;> rfl

/-! ## The schemas in a schema -/

mutual

/-- The schemas in a schema, itself among them. -/
def parts : Schema → List Schema
  | .trivial allows => [.trivial allows]
  | .keywords facts anyOf allOf oneOf properties =>
    .keywords facts anyOf allOf oneOf properties ::
      (partsOption anyOf ++ partsOption allOf ++ partsOption oneOf ++ partsNamed properties)
termination_by structural s => s

def partsOption : Option (List Schema) → List Schema
  | none => []
  | some l => partsList l
termination_by structural l => l

def partsList : List Schema → List Schema
  | [] => []
  | s :: rest => parts s ++ partsList rest
termination_by structural l => l

def partsNamed : List (String × Schema) → List Schema
  | [] => []
  | e :: rest => partsEntry e ++ partsNamed rest
termination_by structural l => l

def partsEntry : String × Schema → List Schema
  | (_, s) => parts s
termination_by structural e => e

end

mutual

theorem length_parts : (s : Schema) → s.parts.length = s.weight
  | .trivial _ => rfl
  | .keywords facts anyOf allOf oneOf properties => by
    simp only [parts, weight, List.length_cons, List.length_append, length_partsOption,
      length_partsNamed]
    omega

theorem length_partsOption : (l : Option (List Schema)) → (partsOption l).length = weightOption l
  | none => rfl
  | some l => length_partsList l

theorem length_partsList : (l : List Schema) → (partsList l).length = weightList l
  | [] => rfl
  | s :: rest => by rw [partsList, weightList, List.length_append, length_parts, length_partsList]

theorem length_partsNamed :
    (l : List (String × Schema)) → (partsNamed l).length = weightNamed l
  | [] => rfl
  | (name, s) :: rest => by
    rw [partsNamed, weightNamed, List.length_append, partsEntry, weightEntry, length_parts,
      length_partsNamed]

end

theorem mem_parts_self (s : Schema) : s ∈ s.parts := by
  cases s with
  | trivial => exact List.mem_singleton_self _
  | keywords => exact List.mem_cons_self

theorem mem_partsList_of_mem {l : List Schema} (h : s ∈ l) : s ∈ partsList l := by
  induction l with
  | nil => cases h
  | cons first rest ih =>
    rw [partsList, List.mem_append]
    rcases List.mem_cons.1 h with rfl | h
    · exact .inl s.mem_parts_self
    · exact .inr (ih h)

theorem mem_partsNamed_of_mem {l : List (String × Schema)} {e : String × Schema} (h : e ∈ l) :
    e.2 ∈ partsNamed l := by
  induction l with
  | nil => cases h
  | cons first rest ih =>
    rw [partsNamed, List.mem_append]
    rcases List.mem_cons.1 h with rfl | h
    · obtain ⟨name, s⟩ := e
      exact .inl s.mem_parts_self
    · exact .inr (ih h)

/-- The schema is a member of one of the combinations of another one. -/
def IsMember (s : Schema) : Schema → Prop
  | .trivial _ => False
  | .keywords _ anyOf allOf oneOf _ =>
    ∃ members, (anyOf = some members ∨ allOf = some members ∨ oneOf = some members) ∧ s ∈ members

mutual

/-- The members of what is in a schema are in it as well. -/
theorem mem_parts_of_isMember :
    (s : Schema) → t ∈ s.parts → u.IsMember t → u ∈ s.parts
  | .trivial _, ht, hu => by
    obtain rfl := List.mem_singleton.1 ht
    exact absurd hu id
  | .keywords facts anyOf allOf oneOf properties, ht, hu => by
    refine List.mem_cons_of_mem _ ?_
    simp only [List.mem_append]
    rcases List.mem_cons.1 ht with rfl | ht
    · obtain ⟨members, rfl | rfl | rfl, hmem⟩ := hu
      · exact .inl (.inl (.inl (mem_partsList_of_mem hmem)))
      · exact .inl (.inl (.inr (mem_partsList_of_mem hmem)))
      · exact .inl (.inr (mem_partsList_of_mem hmem))
    · simp only [List.mem_append] at ht
      rcases ht with ((ht | ht) | ht) | ht
      · exact .inl (.inl (.inl (mem_partsOption_of_isMember anyOf ht hu)))
      · exact .inl (.inl (.inr (mem_partsOption_of_isMember allOf ht hu)))
      · exact .inl (.inr (mem_partsOption_of_isMember oneOf ht hu))
      · exact .inr (mem_partsNamed_of_isMember properties ht hu)

theorem mem_partsOption_of_isMember :
    (l : Option (List Schema)) → t ∈ partsOption l → u.IsMember t → u ∈ partsOption l
  | none, ht, _ => absurd ht List.not_mem_nil
  | some l, ht, hu => mem_partsList_of_isMember l ht hu

theorem mem_partsList_of_isMember :
    (l : List Schema) → t ∈ partsList l → u.IsMember t → u ∈ partsList l
  | [], ht, _ => absurd ht List.not_mem_nil
  | s :: rest, ht, hu => by
    rw [partsList, List.mem_append] at ht ⊢
    rcases ht with ht | ht
    · exact .inl (mem_parts_of_isMember s ht hu)
    · exact .inr (mem_partsList_of_isMember rest ht hu)

theorem mem_partsNamed_of_isMember :
    (l : List (String × Schema)) → t ∈ partsNamed l → u.IsMember t → u ∈ partsNamed l
  | [], ht, _ => absurd ht List.not_mem_nil
  | (_, s) :: rest, ht, hu => by
    rw [partsNamed, List.mem_append] at ht ⊢
    rcases ht with ht | ht
    · exact .inl (mem_parts_of_isMember s ht hu)
    · exact .inr (mem_partsNamed_of_isMember rest ht hu)

end

theorem weight_le_of_mem {l : List Schema} (h : s ∈ l) : s.weight ≤ weightList l := by
  induction l with
  | nil => cases h
  | cons first rest ih =>
    rw [weightList]
    rcases List.mem_cons.1 h with rfl | h
    · omega
    · have := ih h
      omega

theorem IsMember.weight_lt (h : s.IsMember t) : s.weight < t.weight := by
  cases t with
  | trivial => exact absurd h id
  | keywords facts anyOf allOf oneOf properties =>
    obtain ⟨members, hmembers, hmem⟩ := h
    have hle := weight_le_of_mem hmem
    rcases hmembers with rfl | rfl | rfl <;> simp only [weight, weightOption] <;> omega

/-- What is wrapped is a definition, or a member of the wrapper. -/
theorem Wraps.target (h : Wraps definitions s t) :
    (∃ name, definitions.lookup name = some t) ∨ t.IsMember s := by
  cases h with
  | reference refers names defined => exact .inl ⟨_, defined⟩
  | combination undefined first sole =>
    right
    have hmem : t ∈ _ := (List.mem_filter.1 (sole ▸ List.mem_singleton_self t)).1
    refine ⟨_, ?_, hmem⟩
    rcases Option.or_eq_some_iff.1 first with h | ⟨-, h⟩
    · exact .inl h
    · rcases Option.or_eq_some_iff.1 h with h | ⟨-, h⟩
      · exact .inr (.inl h)
      · exact .inr (.inr h)

end Schema

namespace RootSchema

open Schema

variable {r : RootSchema} {s t core : Schema} {chain : List Schema}

/-- All schemas of a root schema and its definitions. -/
def parts (r : RootSchema) : List Schema := r.schema.parts ++ partsNamed r.definitions

theorem length_parts (r : RootSchema) : r.parts.length = r.wrapperLimit := by
  rw [parts, List.length_append, Schema.length_parts, length_partsNamed, wrapperLimit]

theorem mem_parts_of_wraps (h : Wraps r.definitions s t) (hs : s ∈ r.parts) : t ∈ r.parts := by
  unfold parts at hs ⊢
  rw [List.mem_append] at hs ⊢
  rcases h.target with ⟨name, hname⟩ | hmember
  · obtain ⟨before, later, hlist, -⟩ := List.lookup_eq_some_iff.1 hname
    right
    exact mem_partsNamed_of_mem (e := (name, t)) (by rw [hlist]; simp)
  · rcases hs with hs | hs
    · exact .inl (mem_parts_of_isMember _ hs hmember)
    · exact .inr (mem_partsNamed_of_isMember _ hs hmember)

theorem mem_parts_of_property {e : String × Schema} (h : e ∈ r.properties) : e.2 ∈ r.parts := by
  unfold properties at h
  refine List.mem_append_left _ ?_
  cases hschema : r.schema with
  | trivial =>
    rw [hschema] at h
    cases h
  | keywords facts anyOf allOf oneOf properties =>
    rw [hschema] at h
    exact List.mem_cons_of_mem _ (List.mem_append_right _ (mem_partsNamed_of_mem h))

theorem subset_parts (h : Unwraps r.definitions s chain core) (hs : s ∈ r.parts) :
    chain ⊆ r.parts := by
  induction h with
  | core => exact List.cons_subset.2 ⟨hs, List.nil_subset _⟩
  | wrapper wraps rest ih => exact List.cons_subset.2 ⟨hs, ih (mem_parts_of_wraps wraps hs)⟩

/-- A chain in a root schema is no longer than there are schemas in it. -/
theorem length_le_of_unwraps (h : Unwraps r.definitions s chain core) (hs : s ∈ r.parts) :
    chain.length ≤ r.wrapperLimit := by
  rw [← r.length_parts]
  exact (h.nodup.subperm (subset_parts h hs)).length_le

/-! ## Schemas without cycles -/

/-- No definition wraps itself, through however many wrappers. Other cycles do not matter, as that
of a property that refers to the schema around it. -/
def Acyclic (r : RootSchema) : Prop :=
  ∀ name s, r.definitions.lookup name = some s →
    ¬ Relation.TransGen (Wraps r.definitions) s s

/-- Wrappers lead to smaller schemas, or pass a definition. -/
theorem smaller_or_passes (h : Relation.TransGen (Wraps r.definitions) s t) :
    t.weight < s.weight ∨ ∃ name d, r.definitions.lookup name = some d ∧
      Relation.TransGen (Wraps r.definitions) s d ∧
      Relation.ReflTransGen (Wraps r.definitions) d t := by
  induction h with
  | single hwraps =>
    rcases hwraps.target with ⟨name, hname⟩ | hmember
    · exact .inr ⟨name, _, hname, .single hwraps, .refl⟩
    · exact .inl hmember.weight_lt
  | tail hpath hwraps ih =>
    rcases hwraps.target with ⟨name, hname⟩ | hmember
    · exact .inr ⟨name, _, hname, hpath.tail hwraps, .refl⟩
    · rcases ih with hlt | ⟨name, d, hname, hto, hfrom⟩
      · exact .inl (hmember.weight_lt.trans hlt)
      · exact .inr ⟨name, d, hname, hto, hfrom.tail hwraps⟩

/-- Then no schema at all wraps itself. -/
theorem Acyclic.irrefl (h : r.Acyclic) (s : Schema) :
    ¬ Relation.TransGen (Wraps r.definitions) s s := by
  intro hcycle
  rcases smaller_or_passes hcycle with hlt | ⟨name, d, hname, hto, hfrom⟩
  · exact Nat.lt_irrefl _ hlt
  · exact h name d hname (hto.trans_right hfrom)

/-- Every schema in a root schema without cycles unwraps to a core. -/
theorem Acyclic.exists_unwraps (h : r.Acyclic) (hs : s ∈ r.parts) :
    ∃ chain core, Unwraps r.definitions s chain core := by
  have : IsStrictOrder Schema fun t s => Relation.TransGen (Wraps r.definitions) s t :=
    { irrefl := h.irrefl
      trans := fun _ _ _ htu hst => hst.trans htu }
  have hfinite : {s | s ∈ r.parts}.Finite := List.finite_toSet r.parts
  refine hfinite.wellFoundedOn.induction
    (r := fun t s => Relation.TransGen (Wraps r.definitions) s t)
    (P := fun s => ∃ chain core, Unwraps r.definitions s chain core) hs fun s hs ih => ?_
  by_cases hwraps : ∃ t, Wraps r.definitions s t
  · obtain ⟨t, ht⟩ := hwraps
    obtain ⟨chain, core, hchain⟩ := ih t (mem_parts_of_wraps ht hs) (.single ht)
    exact ⟨_, core, .wrapper ht hchain⟩
  · exact ⟨_, s, .core (not_exists.1 hwraps)⟩

end RootSchema

/-! ## Parameters -/

/-- The type and the constraints of a parameter are those of some facts. -/
structure ParameterSpec.Derives (p : ParameterSpec) (f : SchemaFacts) : Prop where
  type : p.type = f.parameterType
  minValue : p.minValue = f.number.bind (·.minimum)
  maxValue : p.maxValue = f.number.bind (·.maximum)
  minLength : p.minLength = f.items.elim (f.text.bind (·.minLength)) (·.minItems)
  maxLength : p.maxLength = f.items.elim (f.text.bind (·.maxLength)) (·.maxItems)
  allowed : p.allowed = f.allowed
  pattern : p.pattern = f.text.bind (·.pattern)

theorem SchemaFacts.parameter_derives (f : SchemaFacts) (name : String) (required : Bool)
    (remarks : Option Remarks) :
    ({ f with remarks := remarks }.parameter name required).Derives f where
  type := rfl
  minValue := rfl
  maxValue := rfl
  minLength := by
    unfold parameter
    cases f.items <;> rfl
  maxLength := by
    unfold parameter
    cases f.items <;> rfl
  allowed := rfl
  pattern := rfl

namespace RootSchema

open Schema

/-- **Parameters see through wrappers.** Each property of a root schema is one parameter, in order,
and required if its name is. If the property unwraps to a core by a chain, however long, the type
and the constraints are those of the core, and the description and the default are those of the
first schema of the chain that has remarks. In a root schema without cycles, every property
unwraps. -/
theorem parameters_see_through (r : RootSchema) :
    List.Forall₂ (fun (e : String × Schema) (p : ParameterSpec) =>
      p.name = e.1 ∧ (p.required = true ↔ e.1 ∈ r.schema.factsOf.required) ∧
      ∀ chain core, Unwraps r.definitions e.2 chain core →
        p.Derives core.factsOf ∧
        p.description = (chain.findSome? remarks).bind (·.description) ∧
        p.default = (chain.findSome? remarks).bind (·.default)) r.properties r.parameters ∧
    (r.Acyclic → ∀ e ∈ r.properties, ∃ chain core, Unwraps r.definitions e.2 chain core) := by
  refine ⟨?_, fun h e he => h.exists_unwraps (mem_parts_of_property he)⟩
  unfold parameters
  rw [List.forall₂_map_right_iff, List.forall₂_same]
  rintro ⟨name, s⟩ he
  refine ⟨rfl, List.contains_iff_mem, fun chain core hchain => ?_⟩
  have hlength := length_le_of_unwraps hchain (mem_parts_of_property he)
  dsimp only
  rw [unwrap_of_unwraps hchain (Nat.le_succ_of_le hlength)]
  exact ⟨core.factsOf.parameter_derives name _ _, rfl, rfl⟩

/-- A remark on a reference to an integer or null. -/
example : RootSchema.parameters
    { schema := .keywords { required := ["level"] } none none none
        [("level", .ofFacts
          { reference := some "#/definitions/Level"
            remarks := some { description := "How far." } })]
      definitions := [("Level", .keywords {} (some [.ofFacts { types := some (.single .integer) },
        .ofFacts { types := some (.single .null) }]) none none [])] } =
    [{ name := "level", type := .integer, required := true, description := "How far." }] := by
  decide +kernel

end RootSchema

end CasefileHub
