import Mathlib.Data.List.Sort
import CasefileHub.Proofs.Catalog.Routing
import CasefileHub.Proofs.Catalog.Unbound
/-!
# The issues of a catalog, exactly

What counts as an issue is said without the walk over the registries, and so is which of two issues
comes first. The walk gives the one list of all issues in this order:

    report = c.consistency operations ↔ report is in order ∧ its members are the issues of c
                                                                     (consistency_is_ordered_issues)
    the name reads like a binding ↔ verb_stem or stem_tool                   (readsLikeBinding_iff)

Only dangling references are errors, so a strict start fails exactly on these and lists them.
-/

namespace CasefileHub

/-! ## Entries of a registry in order -/

theorem Registry.toList_ascending {α : Type} [Named α] (r : Registry α) :
    r.toList.Pairwise fun a b => Named.name a < Named.name b := by
  have hentries : r.table.entries.Pairwise fun e e' => e.1 < e'.1 :=
    List.pairwise_map.1 r.table.names_ascending
  refine List.pairwise_map.2 (hentries.imp_of_mem fun {e e'} he he' hlt => ?_)
  have hname {e : String × α} (he : e ∈ r.table.entries) : Named.name e.2 = e.1 :=
    r.named e.1 e.2 (Entries.lookup_of_mem r.table.ascending he)
  rw [hname he, hname he']
  exact hlt

/-! ## Names like those of bound tools -/

namespace Catalog

variable {cs start ending rest front : List Char}

theorem after?_eq_some_iff : after? start cs = some rest ↔ cs = start ++ rest := by
  unfold after?
  constructor
  · intro h
    split at h
    · rename_i hprefix
      obtain ⟨t, rfl⟩ := List.isPrefixOf_iff_prefix.1 hprefix
      rw [List.drop_left] at h
      rw [Option.some.inj h]
    · cases h
  · rintro rfl
    rw [if_pos (List.isPrefixOf_iff_prefix.2 (List.prefix_append start rest)), List.drop_left]

theorem before?_eq_some_iff : before? ending cs = some front ↔ cs = front ++ ending := by
  unfold before?
  rw [Option.map_eq_some_iff]
  simp only [after?_eq_some_iff]
  constructor
  · rintro ⟨back, hback, rfl⟩
    rw [← List.reverse_reverse cs, hback, List.reverse_append, List.reverse_reverse]
  · rintro rfl
    exact ⟨front.reverse, List.reverse_append, List.reverse_reverse front⟩

/-- One or more of the letters a to z, the digits and the underscore. -/
def IsWord (s : String) : Prop :=
  s ≠ "" ∧ ∀ c ∈ s.toList, ('a' ≤ c ∧ c ≤ 'z') ∨ ('0' ≤ c ∧ c ≤ '9') ∨ c = '_'

/-- One of the verbs, an underscore and a word, or a word and `_tool`. -/
def NamedLikeBinding (name : String) : Prop :=
  (∃ verb ∈ bindingVerbs, ∃ word, IsWord word ∧ name = verb ++ "_" ++ word) ∨
    ∃ word, IsWord word ∧ name = word ++ "_tool"

theorem isStemChar_iff (c : Char) :
    isStemChar c = true ↔ ('a' ≤ c ∧ c ≤ 'z') ∨ ('0' ≤ c ∧ c ≤ '9') ∨ c = '_' := by
  have hdigit : c.isDigit = true ↔ '0' ≤ c ∧ c ≤ '9' := by
    simp only [Char.isDigit, Bool.and_eq_true, decide_eq_true_eq]
    exact Iff.rfl
  simp only [isStemChar, Bool.or_eq_true, hdigit, Bool.and_eq_true, decide_eq_true_eq, beq_iff_eq]
  tauto

theorem isStem_toList_iff (s : String) : isStem s.toList = true ↔ IsWord s := by
  unfold isStem IsWord
  rw [Bool.and_eq_true, List.all_eq_true]
  refine and_congr ?_ (forall_congr' fun c => imp_congr_right fun _ => isStemChar_iff c)
  simp [String.toList_eq_nil_iff]

theorem exists_isStem_iff {P : List Char → Prop} :
    (∃ cs, P cs ∧ isStem cs = true) ↔ ∃ word : String, IsWord word ∧ P word.toList := by
  constructor
  · rintro ⟨cs, hp, hstem⟩
    refine ⟨String.ofList cs, ?_, ?_⟩
    · rw [← isStem_toList_iff, String.toList_ofList]
      exact hstem
    · rw [String.toList_ofList]
      exact hp
  · rintro ⟨word, hword, hp⟩
    exact ⟨word.toList, hp, (isStem_toList_iff word).2 hword⟩

theorem readsLikeBinding_iff (name : String) :
    readsLikeBinding name = true ↔ NamedLikeBinding name := by
  unfold readsLikeBinding NamedLikeBinding
  rw [Bool.or_eq_true, List.any_eq_true]
  refine or_congr (exists_congr fun verb => and_congr_right fun _ => ?_) ?_
  · rw [Option.any_eq_true]
    simp only [after?_eq_some_iff, exists_isStem_iff, ← String.toList_inj, String.toList_append]
    rfl
  · rw [Option.any_eq_true]
    simp only [before?_eq_some_iff, exists_isStem_iff, ← String.toList_inj, String.toList_append]

end Catalog

/-! ## The order of issues -/

namespace ConsistencyIssue

/-- Issues of tools, and then issues of methods. -/
def part : ConsistencyIssue → Nat
  | .danglingMethod _ _ | .unboundTool _ => 0
  | .orphanMethod _ | .unroutedMethod _ => 1

/-- The name of the tool or the method. -/
def subject : ConsistencyIssue → String
  | .danglingMethod tool _ | .unboundTool tool => tool
  | .orphanMethod method | .unroutedMethod method => method

/-- Of two issues of one method, the orphan comes first. -/
def rank : ConsistencyIssue → Nat
  | .unroutedMethod _ => 1
  | _ => 0

/-- One issue comes before another one. -/
def Precedes (i j : ConsistencyIssue) : Prop :=
  i.part < j.part ∨ (i.part = j.part ∧
    (i.subject < j.subject ∨ (i.subject = j.subject ∧ i.rank < j.rank)))

variable {i j : ConsistencyIssue}

theorem Precedes.asymm (h : Precedes i j) : ¬ Precedes j i := by
  intro h'
  rcases h with hpart | ⟨hpart, hlt | ⟨heq, hrank⟩⟩
  · rcases h' with hpart' | ⟨hpart', -⟩
    · omega
    · omega
  · rcases h' with hpart' | ⟨-, hlt' | ⟨heq', -⟩⟩
    · omega
    · exact String.lt_asymm hlt hlt'
    · exact String.lt_irrefl _ (heq' ▸ hlt)
  · rcases h' with hpart' | ⟨-, hlt' | ⟨-, hrank'⟩⟩
    · omega
    · exact String.lt_irrefl _ (heq ▸ hlt')
    · omega

instance : Std.Irrefl Precedes := ⟨fun _ h => h.asymm h⟩

instance : Std.Antisymm Precedes := ⟨fun _ _ h h' => absurd h' h.asymm⟩

end ConsistencyIssue

namespace Catalog

open ConsistencyIssue

variable {c : Catalog} {operations : List String} {t : Tool} {method : Method} {name m : String}
  {i : ConsistencyIssue}

/-! ## Issues without the walk -/

/-- What is an issue of a catalog and the operations of a hub. -/
inductive HasIssue (c : Catalog) (operations : List String) : ConsistencyIssue → Prop
  | dangling {name m : String} {t : Tool} (tool : c.tool? name = some t)
      (names : t.methodName = some m) (nonempty : m ≠ "") (missing : c.method? m = none) :
      HasIssue c operations (.danglingMethod name m)
  | unbound {name : String} {t : Tool} (tool : c.tool? name = some t)
      (names : t.methodName = none ∨ t.methodName = some "") (looks : NamedLikeBinding name) :
      HasIssue c operations (.unboundTool name)
  | orphan {m : String} (registered : (c.method? m).isSome)
      (unnamed : ∀ name t, c.tool? name = some t → t.methodName ≠ some m) :
      HasIssue c operations (.orphanMethod m)
  | unrouted {m : String} (registered : (c.method? m).isSome) (asked : operations ≠ [])
      (unlisted : m ∉ operations) : HasIssue c operations (.unroutedMethod m)

theorem unbound_mem_toolIssues_iff :
    .unboundTool name ∈ c.toolIssues t ↔
      t.name = name ∧ t.isBound = false ∧ NamedLikeBinding name := by
  unfold toolIssues Tool.isBound
  cases hb : t.binding with
  | some m => by_cases hm : c.methods.contains m = true <;> simp [hm]
  | none =>
    by_cases hlooks : readsLikeBinding t.name = true
    · simp only [hlooks, if_true, List.mem_singleton, ConsistencyIssue.unboundTool.injEq]
      constructor
      · rintro rfl
        exact ⟨rfl, rfl, (readsLikeBinding_iff _).1 hlooks⟩
      · rintro ⟨rfl, -, -⟩
        rfl
    · refine iff_of_false (by simp [hlooks]) ?_
      rintro ⟨rfl, -, hname⟩
      exact hlooks ((readsLikeBinding_iff _).2 hname)

theorem unbound_not_mem_methodIssues : .unboundTool name ∉ c.methodIssues operations method := by
  unfold methodIssues
  simp

/-- An issue of tools is an issue of the tool that is registered under its name. -/
theorem mem_consistency_iff_of_tool
    (hmethods : ∀ method, i ∉ c.methodIssues operations method) :
    i ∈ c.consistency operations ↔ ∃ t, c.tool? t.name = some t ∧ i ∈ c.toolIssues t := by
  unfold consistency
  rw [List.mem_append, List.mem_flatMap, List.mem_flatMap]
  constructor
  · rintro (⟨t, ht, hi⟩ | ⟨method, -, hi⟩)
    · exact ⟨t, Registry.get?_of_mem_toList ht, hi⟩
    · exact absurd hi (hmethods method)
  · rintro ⟨t, ht, hi⟩
    exact .inl ⟨t, Registry.mem_toList_of_get? ht, hi⟩

theorem dangling_mem_iff :
    .danglingMethod name m ∈ c.consistency operations ↔
      c.HasIssue operations (.danglingMethod name m) := by
  rw [mem_consistency_iff_of_tool fun _ => not_mem_methodIssues]
  constructor
  · rintro ⟨t, ht, hi⟩
    obtain ⟨hb, rfl, hmissing⟩ := mem_toolIssues_iff.1 hi
    obtain ⟨hnames, hne⟩ := Tool.binding_eq_some_iff.1 hb
    exact .dangling ht hnames hne hmissing
  · intro h
    cases h with
    | dangling ht hnames hne hmissing =>
      obtain rfl := tool_name ht
      have hb := Tool.binding_eq_some_iff.2 ⟨hnames, hne⟩
      exact ⟨_, ht, mem_toolIssues_iff.2 ⟨hb, rfl, hmissing⟩⟩

theorem unbound_mem_iff :
    .unboundTool name ∈ c.consistency operations ↔
      c.HasIssue operations (.unboundTool name) := by
  rw [mem_consistency_iff_of_tool fun _ => unbound_not_mem_methodIssues]
  constructor
  · rintro ⟨t, ht, hi⟩
    obtain ⟨rfl, hb, hlooks⟩ := unbound_mem_toolIssues_iff.1 hi
    exact .unbound ht (Tool.isBound_eq_false_iff.1 hb) hlooks
  · intro h
    cases h with
    | unbound ht hnames hlooks =>
      obtain rfl := tool_name ht
      have hb := Tool.isBound_eq_false_iff.2 hnames
      exact ⟨_, ht, unbound_mem_toolIssues_iff.2 ⟨rfl, hb, hlooks⟩⟩

theorem orphan_mem_iff :
    .orphanMethod m ∈ c.consistency operations ↔ c.HasIssue operations (.orphanMethod m) := by
  rw [orphan_mem_consistency_iff]
  constructor
  · rintro ⟨hregistered, hunnamed⟩
    exact .orphan hregistered hunnamed
  · intro h
    cases h with
    | orphan hregistered hunnamed => exact ⟨hregistered, hunnamed⟩

theorem unrouted_mem_iff :
    .unroutedMethod m ∈ c.consistency operations ↔ c.HasIssue operations (.unroutedMethod m) := by
  constructor
  · intro hi
    have hasked : operations ≠ [] := by
      rintro rfl
      unfold consistency at hi
      rw [List.mem_append, List.mem_flatMap, List.mem_flatMap] at hi
      rcases hi with ⟨t, -, hi⟩ | ⟨method, -, hi⟩
      · exact not_mem_toolIssues hi
      · exact (mem_methodIssues_iff.1 hi).2.1 rfl
    obtain ⟨hregistered, hunlisted⟩ := (unrouted_mem_consistency_iff hasked).1 hi
    exact .unrouted hregistered hasked hunlisted
  · intro h
    cases h with
    | unrouted hregistered hasked hunlisted =>
      exact (unrouted_mem_consistency_iff hasked).2 ⟨hregistered, hunlisted⟩

/-- The walk finds all issues, and nothing else. -/
theorem mem_consistency_iff : i ∈ c.consistency operations ↔ c.HasIssue operations i := by
  cases i with
  | danglingMethod name m => exact dangling_mem_iff
  | orphanMethod m => exact orphan_mem_iff
  | unboundTool name => exact unbound_mem_iff
  | unroutedMethod m => exact unrouted_mem_iff

/-! ## The walk is in order -/

theorem place_of_mem_toolIssues (h : i ∈ c.toolIssues t) : i.part = 0 ∧ i.subject = t.name := by
  unfold toolIssues at h
  split at h
  · split at h
    · cases h
    · cases List.mem_singleton.1 h
      exact ⟨rfl, rfl⟩
  · split at h
    · cases List.mem_singleton.1 h
      exact ⟨rfl, rfl⟩
    · cases h

theorem toolIssues_ordered (c : Catalog) (t : Tool) : (c.toolIssues t).Pairwise Precedes := by
  unfold toolIssues
  split <;> split <;> simp

theorem place_of_mem_methodIssues (h : i ∈ c.methodIssues operations method) :
    i.part = 1 ∧ i.subject = method.name := by
  unfold methodIssues at h
  rcases List.mem_append.1 h with h | h
  · split at h
    · cases List.mem_singleton.1 h
      exact ⟨rfl, rfl⟩
    · cases h
  · split at h
    · cases List.mem_singleton.1 h
      exact ⟨rfl, rfl⟩
    · cases h

theorem methodIssues_ordered (c : Catalog) (operations : List String) (method : Method) :
    (c.methodIssues operations method).Pairwise Precedes := by
  unfold methodIssues
  split <;> split <;> simp [Precedes, part, subject, rank]

/-- Of issues of the same part, those of the smaller name come first. -/
theorem precedes_of_lt {j : ConsistencyIssue} {part : Nat} {a b : String}
    (hi : i.part = part ∧ i.subject = a) (hj : j.part = part ∧ j.subject = b) (hlt : a < b) :
    Precedes i j := by
  refine .inr ⟨hi.1.trans hj.1.symm, .inl ?_⟩
  rw [hi.2, hj.2]
  exact hlt

theorem consistency_ordered (c : Catalog) (operations : List String) :
    (c.consistency operations).Pairwise Precedes := by
  unfold consistency
  refine List.pairwise_append.2 ⟨List.pairwise_flatMap.2 ⟨fun t _ => c.toolIssues_ordered t, ?_⟩,
    List.pairwise_flatMap.2 ⟨fun method _ => c.methodIssues_ordered operations method, ?_⟩, ?_⟩
  · exact c.tools.toList_ascending.imp fun hlt i hi j hj =>
      precedes_of_lt (place_of_mem_toolIssues hi) (place_of_mem_toolIssues hj) hlt
  · exact c.methods.toList_ascending.imp fun hlt i hi j hj =>
      precedes_of_lt (place_of_mem_methodIssues hi) (place_of_mem_methodIssues hj) hlt
  · intro i hi j hj
    obtain ⟨t, -, hi⟩ := List.mem_flatMap.1 hi
    obtain ⟨method, -, hj⟩ := List.mem_flatMap.1 hj
    left
    rw [(place_of_mem_toolIssues hi).1, (place_of_mem_methodIssues hj).1]
    exact Nat.zero_lt_one

/-- A list in order with all issues and no others is the report. -/
theorem eq_consistency_iff {report : List ConsistencyIssue} :
    report = c.consistency operations ↔
      report.Pairwise Precedes ∧ ∀ i, i ∈ report ↔ c.HasIssue operations i := by
  constructor
  · rintro rfl
    exact ⟨c.consistency_ordered operations, fun _ => mem_consistency_iff⟩
  · rintro ⟨hordered, hmem⟩
    refine hordered.eq_of_mem_iff (c.consistency_ordered operations) fun i => ?_
    rw [hmem, mem_consistency_iff]

/-! ## A strict start -/

/-- The tool and the method of a dangling reference. -/
def reference? : ConsistencyIssue → Option (String × String)
  | .danglingMethod tool m => some (tool, m)
  | .orphanMethod _ | .unboundTool _ | .unroutedMethod _ => none

theorem reference?_eq_some_iff :
    reference? i = some (name, m) ↔ i = .danglingMethod name m := by
  cases i <;> simp [reference?]

/-- The errors are the dangling references. -/
theorem messages_of_errors (issues : List ConsistencyIssue) :
    (errors issues).map message = (issues.filterMap reference?).map fun (tool, m) =>
      "tool '" ++ tool ++ "' is bound to unknown method '" ++ m ++ "'" := by
  induction issues with
  | nil => rfl
  | cons i rest ih =>
    unfold errors at ih ⊢
    cases i with
    | danglingMethod tool m =>
      rw [List.filter_cons_of_pos rfl, List.map_cons, ih]
      rfl
    | orphanMethod | unboundTool | unroutedMethod =>
      rw [List.filter_cons_of_neg Bool.false_ne_true, ih]
      rfl

theorem mem_references_iff :
    (name, m) ∈ (c.consistency operations).filterMap reference? ↔
      c.HasIssue operations (.danglingMethod name m) := by
  rw [← mem_consistency_iff, List.mem_filterMap]
  simp only [reference?_eq_some_iff, exists_eq_right]

theorem references_ascending (c : Catalog) (operations : List String) :
    ((c.consistency operations).filterMap reference?).Pairwise fun a b => a.1 < b.1 := by
  refine List.pairwise_filterMap.2 ((c.consistency_ordered operations).imp ?_)
  rintro i j hij ⟨tool, m⟩ ha ⟨tool', m'⟩ hb
  obtain rfl := reference?_eq_some_iff.1 ha
  obtain rfl := reference?_eq_some_iff.1 hb
  simpa [Precedes, part, subject, rank] using hij

theorem enforce_eq_error_iff {strict : Bool} {issues : List ConsistencyIssue} {err : HubError} :
    enforce strict issues = .error err ↔ strict = true ∧ (errors issues).map message ≠ [] ∧
      err = .inconsistent (Text.join "; " ((errors issues).map message)) := by
  unfold enforce
  cases strict with
  | false => simp
  | true =>
    cases herrors : errors issues with
    | nil => simp
    | cons i rest =>
      constructor
      · intro h
        exact ⟨rfl, List.cons_ne_nil _ _, (Except.error.inj h).symm⟩
      · rintro ⟨-, -, rfl⟩
        rfl

/-- **The report is the list of all issues in order.** It has no issue twice. A strict start fails
exactly if there is a dangling reference, and its message lists these, by the names of the tools. -/
theorem consistency_is_ordered_issues (c : Catalog) (operations : List String) :
    (∀ report, report = c.consistency operations ↔
      report.Pairwise Precedes ∧ ∀ i, i ∈ report ↔ c.HasIssue operations i) ∧
    (c.consistency operations).Nodup ∧
    (∀ strict, (∃ err, enforce strict (c.consistency operations) = .error err) ↔
      strict = true ∧ ∃ tool m, c.HasIssue operations (.danglingMethod tool m)) ∧
    ∀ strict err, enforce strict (c.consistency operations) = .error err →
      ∃ references : List (String × String),
        references.Pairwise (fun a b => a.1 < b.1) ∧
        (∀ tool m, (tool, m) ∈ references ↔ c.HasIssue operations (.danglingMethod tool m)) ∧
        err = .inconsistent (Text.join "; " (references.map fun (tool, m) =>
          "tool '" ++ tool ++ "' is bound to unknown method '" ++ m ++ "'")) := by
  refine ⟨fun report => eq_consistency_iff, (c.consistency_ordered operations).nodup,
    fun strict => ?_, fun strict err herr => ?_⟩
  · simp only [enforce_eq_error_iff, messages_of_errors, exists_and_left, exists_eq, and_true,
      ne_eq, List.map_eq_nil_iff]
    refine and_congr_right fun _ => ?_
    constructor
    · intro hne
      obtain ⟨⟨tool, m⟩, hmem⟩ := List.exists_mem_of_ne_nil _ hne
      exact ⟨tool, m, mem_references_iff.1 hmem⟩
    · rintro ⟨tool, m, h⟩
      exact List.ne_nil_of_mem (mem_references_iff.2 h)
  · rw [enforce_eq_error_iff, messages_of_errors] at herr
    exact ⟨_, c.references_ascending operations, fun _ _ => mem_references_iff, herr.2.2⟩

end Catalog

end CasefileHub
