import CasefileHub.Proofs.Dispatch.Answer
import CasefileHub.Proofs.Registry.Conflicts
/-!
# Policies, loaded and selected

A library has the two built-in patterns and those that it was loaded with. So it always has the
default pattern, whatever else is in it, and a name that is selected for a request is always known:

    ofPatterns ps = ok ↔ the names in ps are distinct, and none is built in  (ofPatterns_isOk_iff)
    l.get? name = some p ↔ p is built in or loaded, and has the name         (get?_ofPatterns_iff)
    h.Selects r p → h runs every dispatch of r under p                       (dispatch_of_selects)
-/

namespace CasefileHub

/-! ## The library -/

/-- Patterns with distinct names, none of them that of a built-in pattern. -/
structure PolicyPattern.Loadable (ps : List PolicyPattern) : Prop where
  distinct : (ps.map PolicyPattern.name).Nodup
  new : ∀ p ∈ ps, p.name ≠ "default" ∧ p.name ≠ "session_observer"

namespace PolicyLibrary

variable {l : PolicyLibrary} {ps : List PolicyPattern} {p : PolicyPattern} {name : String}

theorem fresh_builtin : (Registry.empty : Registry PolicyPattern).Fresh PolicyPattern.builtin :=
  ⟨by decide, fun _ _ => rfl⟩

theorem get?_builtin_iff :
    builtin.get? name = some p ↔ p ∈ PolicyPattern.builtin ∧ p.name = name := by
  refine (Registry.get?_foldl_replace_iff fresh_builtin).trans ?_
  simp [Named.name]

theorem contains_builtin_iff :
    builtin.contains name = true ↔ name = "default" ∨ name = "session_observer" := by
  refine (Registry.contains_foldl_replace_iff fresh_builtin).trans ?_
  simp [Registry.contains, PolicyPattern.builtin, Named.name, PolicyPattern.standard,
    PolicyPattern.sessionObserver, PolicyPattern.defaultName, PolicyPattern.sessionObserverName]

theorem fresh_iff_loadable : builtin.patterns.Fresh ps ↔ PolicyPattern.Loadable ps := by
  have hnew (p : PolicyPattern) : builtin.patterns.contains (Named.name p) = false ↔
      p.name ≠ "default" ∧ p.name ≠ "session_observer" := by
    rw [Bool.eq_false_iff, ← not_or]
    exact not_congr contains_builtin_iff
  constructor
  · rintro ⟨hdistinct, hfree⟩
    exact ⟨hdistinct, fun p hp => (hnew p).1 (hfree p hp)⟩
  · rintro ⟨hdistinct, hfree⟩
    exact ⟨hdistinct, fun p hp => (hnew p).2 (hfree p hp)⟩

theorem ofPatterns_eq_ok_iff :
    ofPatterns ps = .ok l ↔ builtin.patterns.registerAll ps = .ok l.patterns := by
  obtain ⟨patterns⟩ := l
  unfold ofPatterns
  cases builtin.patterns.registerAll ps <;> simp [bind, Except.bind, pure, Except.pure]

theorem ofPatterns_eq_error_iff_registerAll {e : HubError} :
    ofPatterns ps = .error e ↔ builtin.patterns.registerAll ps = .error e := by
  unfold ofPatterns
  cases builtin.patterns.registerAll ps <;> simp [bind, Except.bind, pure, Except.pure]

/-- Patterns are loaded if and only if their names are distinct and none is built in. -/
theorem ofPatterns_isOk_iff : (∃ l, ofPatterns ps = .ok l) ↔ PolicyPattern.Loadable ps := by
  rw [← fresh_iff_loadable, ← Registry.registerAll_isOk_iff]
  simp only [ofPatterns_eq_ok_iff]
  constructor
  · rintro ⟨l, hl⟩
    exact ⟨l.patterns, hl⟩
  · rintro ⟨patterns, hpatterns⟩
    exact ⟨⟨patterns⟩, hpatterns⟩

/-- The first pattern whose name is built in, or that of a pattern before it, is what fails. -/
theorem ofPatterns_eq_error_iff {e : HubError} :
    ofPatterns ps = .error e ↔ ∃ before p later, ps = before ++ p :: later ∧
      PolicyPattern.Loadable before ∧
      ((p.name = "default" ∨ p.name = "session_observer") ∨
        p.name ∈ before.map PolicyPattern.name) ∧ e = .conflict .policy p.name := by
  rw [ofPatterns_eq_error_iff_registerAll, Registry.registerAll_eq_error_iff]
  constructor
  · rintro ⟨p, ⟨before, later, rfl, hfresh, hclash⟩, rfl⟩
    exact ⟨before, p, later, rfl, fresh_iff_loadable.1 hfresh,
      hclash.imp_left contains_builtin_iff.1, rfl⟩
  · rintro ⟨before, p, later, rfl, hloadable, hclash, rfl⟩
    exact ⟨p, ⟨before, later, rfl, fresh_iff_loadable.2 hloadable,
      hclash.imp_left contains_builtin_iff.2⟩, rfl⟩

/-- A library has the built-in patterns and those that it was loaded with, and no others. -/
theorem get?_ofPatterns_iff (h : ofPatterns ps = .ok l) :
    l.get? name = some p ↔ (p ∈ PolicyPattern.builtin ∨ p ∈ ps) ∧ p.name = name := by
  refine (Registry.get?_registerAll_iff (ofPatterns_eq_ok_iff.1 h)).trans ?_
  rw [or_and_right]
  exact or_congr_left get?_builtin_iff

/-! ## Look-ups -/

theorem contains_of_get? (h : l.get? name = some p) : l.contains name = true := by
  show (l.get? name).isSome = true
  rw [h]
  rfl

theorem resolve_of_get? (h : l.get? name = some p) : l.resolve name = name :=
  if_pos (contains_of_get? h)

theorem resolve_of_unknown (h : l.get? name = none) : l.resolve name = "default" := by
  have hno : l.contains name = false := by
    show (l.get? name).isSome = false
    rw [h]
    rfl
  rw [resolve, if_neg (by rw [hno]; decide)]
  rfl

/-- A known name has the defaults of its pattern. -/
theorem defaults_of_get? (h : l.get? name = some p) : l.defaults name = p.defaults := by
  rw [PolicyLibrary.defaults, resolve_of_get? h, h]
  rfl

end PolicyLibrary

/-! ## Selection -/

namespace Hub

variable {σ : Type} {h : Hub σ} {r : Request Json} {name : String} {p : PolicyPattern}

/-- The policy that is asked for: by the hint of the request, without one by its route, and without
that by the settings. -/
inductive Asks (h : Hub σ) (r : Request Json) : String → Prop
  | hint {name : String} (hinted : r.policyHints.pattern = some name) : Asks h r name
  | route {name : String} {route : Route σ} (unhinted : r.policyHints.pattern = none)
      (routed : h.operations.get? r.operation = some route)
      (named : route.defaultPolicy = some name) : Asks h r name
  | settings (unhinted : r.policyHints.pattern = none)
      (unrouted : ∀ route, h.operations.get? r.operation = some route →
        route.defaultPolicy = none) : Asks h r h.config.defaultPolicy

/-- The pattern that a request runs under: the one that is asked for, if it is known, and else the
default one. -/
inductive Selects (h : Hub σ) (r : Request Json) (p : PolicyPattern) : Prop
  | known (asked : h.Asks r p.name) (known : h.policies.get? p.name = some p)
  | unknown {name : String} (asked : h.Asks r name) (unknown : h.policies.get? name = none)
      (default : h.policies.get? "default" = some p)

/-- Performs a request under a pattern. -/
def performUnder (h : Hub σ) (p : PolicyPattern) (r : Request Json)
    (call : Services σ → ServiceCall σ Json) : Timed σ Response := do
  let prepared ← DispatchContext.prepare h.services r p.name p.defaults
  let skipped := Hook.unknown h.hooks prepared
  let c ← Hook.runStage h.hooks .pre none prepared
  let c := if h.config.warnOnUnknownHooks && !skipped.isEmpty
    then { c with skippedHooks := skipped } else c
  let result ← h.outcome r.operation (call h.services)
  h.finish r c result

theorem asks_iff : h.Asks r name ↔ h.requestedPolicy r = name := by
  unfold requestedPolicy
  constructor
  · intro hasks
    cases hasks with
    | hint hinted => simp [hinted]
    | route unhinted routed named => simp [unhinted, routed, named]
    | settings unhinted unrouted =>
      have hnone : (h.operations.get? r.operation).bind Route.defaultPolicy = none :=
        Option.bind_eq_none_iff.2 unrouted
      simp [unhinted, hnone]
  · rintro rfl
    cases hhint : r.policyHints.pattern with
    | some name => exact .hint hhint
    | none =>
      cases hroute : (h.operations.get? r.operation).bind Route.defaultPolicy with
      | some name =>
        obtain ⟨route, hrouted, hnamed⟩ := Option.bind_eq_some_iff.1 hroute
        exact .route hhint hrouted hnamed
      | none => exact .settings hhint (Option.bind_eq_none_iff.1 hroute)

/-- With a default pattern, every request runs under some pattern. -/
theorem exists_selects {standard : PolicyPattern}
    (hstandard : h.policies.get? "default" = some standard) (r : Request Json) :
    ∃ p, h.Selects r p := by
  have hasks : h.Asks r (h.requestedPolicy r) := asks_iff.2 rfl
  cases hget : h.policies.get? (h.requestedPolicy r) with
  | some p =>
    have hname : p.name = h.requestedPolicy r := h.policies.patterns.named _ p hget
    rw [← hname] at hasks hget
    exact ⟨p, .known hasks hget⟩
  | none => exact ⟨standard, .unknown hasks hget hstandard⟩

/-- The name of the pattern is selected, and the pattern is found by it. -/
theorem Selects.found (hselects : h.Selects r p) :
    h.selectPolicy r = p.name ∧ h.policies.get? p.name = some p := by
  cases hselects with
  | known asked known =>
    rw [selectPolicy, asks_iff.1 asked]
    exact ⟨PolicyLibrary.resolve_of_get? known, known⟩
  | unknown asked unknown default =>
    have hname : p.name = "default" := h.policies.patterns.named _ p default
    rw [selectPolicy, asks_iff.1 asked, hname]
    exact ⟨PolicyLibrary.resolve_of_unknown unknown, default⟩

/-- A request that is not refused runs with the name and the defaults of its pattern. -/
theorem dispatch_of_selects (hselects : h.Selects r p)
    {call : Services σ → ServiceCall σ Json} (haccept : h.accept r = .ok call) :
    h.dispatch r = .ok <$> h.performUnder p r call := by
  obtain ⟨hselected, hget⟩ := hselects.found
  have hperform : h.perform r call = h.performUnder p r call := by
    unfold perform performUnder begin
    simp only [hselected, PolicyLibrary.defaults_of_get? hget, bind_assoc, pure_bind]
  rw [dispatch_of_accept haccept, hperform]

/-- **What is selected is loaded.** Patterns make a library if and only if their names are distinct
and none is built in, and otherwise the first one with such a name is what fails. The library has
the two built-in patterns and those that it was loaded with. On every hub with such a library, each
request selects the pattern that is asked for by its hint, else by its route, else by the settings,
or the default pattern if there is none of that name. The name that is selected is known, it has the
defaults of the pattern, and the request is dispatched with these. -/
theorem policies_are_selected_as_loaded (ps : List PolicyPattern) :
    ((∃ l, PolicyLibrary.ofPatterns ps = .ok l) ↔ PolicyPattern.Loadable ps) ∧
    (∀ e, PolicyLibrary.ofPatterns ps = .error e ↔ ∃ before p later, ps = before ++ p :: later ∧
      PolicyPattern.Loadable before ∧
      ((p.name = "default" ∨ p.name = "session_observer") ∨
        p.name ∈ before.map PolicyPattern.name) ∧ e = .conflict .policy p.name) ∧
    ∀ l, PolicyLibrary.ofPatterns ps = .ok l →
      (∀ name p, l.get? name = some p ↔
        (p ∈ PolicyPattern.builtin ∨ p ∈ ps) ∧ p.name = name) ∧
      l.defaults "default" = ⟨[], ["metrics", "audit"]⟩ ∧
      l.defaults "session_observer" = ⟨["session"], ["metrics", "audit"]⟩ ∧
      ∀ (h : Hub σ) (r : Request Json), h.policies = l →
        ∃ p, h.Selects r p ∧ h.selectPolicy r = p.name ∧ l.get? p.name = some p ∧
          l.defaults (h.selectPolicy r) = p.defaults ∧
          ∀ call, h.accept r = .ok call → h.dispatch r = .ok <$> h.performUnder p r call := by
  refine ⟨PolicyLibrary.ofPatterns_isOk_iff, fun e => PolicyLibrary.ofPatterns_eq_error_iff,
    fun l hl => ?_⟩
  have hget (name : String) (p : PolicyPattern) : l.get? name = some p ↔
      (p ∈ PolicyPattern.builtin ∨ p ∈ ps) ∧ p.name = name := PolicyLibrary.get?_ofPatterns_iff hl
  have hstandard : l.get? "default" = some .standard :=
    (hget _ _).2 ⟨.inl (by simp [PolicyPattern.builtin]), rfl⟩
  have hobserver : l.get? "session_observer" = some .sessionObserver :=
    (hget _ _).2 ⟨.inl (by simp [PolicyPattern.builtin]), rfl⟩
  refine ⟨hget, PolicyLibrary.defaults_of_get? hstandard,
    PolicyLibrary.defaults_of_get? hobserver, ?_⟩
  rintro h r rfl
  obtain ⟨p, hp⟩ := exists_selects hstandard r
  obtain ⟨hselected, hfound⟩ := hp.found
  refine ⟨p, hp, hselected, hfound, ?_, fun call hcall => dispatch_of_selects hp hcall⟩
  rw [hselected, PolicyLibrary.defaults_of_get? hfound]

/-- A pattern that fetches the casefile. -/
def casefileScoped : PolicyPattern where
  name := "casefile_scoped"
  defaults := { contextRequirements := ["casefile"], hooks := ["metrics"] }

/-- A request that hints at a pattern. -/
def hinting (pattern : String) : Request Json where
  requestId := "r"
  operation := "chat"
  payload := .obj []
  policyHints := { pattern := some pattern }

/-- A pattern that is loaded is selected by a hint. -/
theorem casefileScoped_is_selected :
    ∃ l, PolicyLibrary.ofPatterns [casefileScoped] = .ok l ∧
      { inMemory {} with policies := l }.selectPolicy (hinting "casefile_scoped") =
        "casefile_scoped" ∧
      l.defaults "casefile_scoped" = ⟨["casefile"], ["metrics"]⟩ := by
  obtain ⟨hload, -, hloaded⟩ := policies_are_selected_as_loaded (σ := Store) [casefileScoped]
  obtain ⟨l, hl⟩ := hload.2 ⟨by decide, by decide⟩
  obtain ⟨hget, -, -, hselect⟩ := hloaded l hl
  have hscoped : l.get? "casefile_scoped" = some casefileScoped :=
    (hget _ _).2 ⟨.inr (by simp), rfl⟩
  obtain ⟨p, hp, hselected, hfound, hdefaults, -⟩ :=
    hselect { inMemory {} with policies := l } (hinting "casefile_scoped") rfl
  have hname : p.name = "casefile_scoped" := by
    cases hp with
    | known asked _ => exact (asks_iff.1 asked).symm
    | unknown asked unknown _ =>
      rw [← asks_iff.1 asked] at unknown
      exact absurd (hscoped.symm.trans unknown) (by simp)
  rw [hselected, hname] at hdefaults
  rw [hname, hscoped] at hfound
  obtain rfl := Option.some.inj hfound
  exact ⟨l, hl, hselected, hdefaults⟩

end Hub

end CasefileHub
