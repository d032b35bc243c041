import CasefileHub.Proofs.Invocation.Gates
import CasefileHub.Proofs.Parameter.Conformance
/-!
# Resubmission

Validated parameters are arguments again. Given values have been checked before, and defaults, which
stand in for absent values unchecked, are checked now. With defaults that pass, the parameters come
back as they are, and so does the answer of a dry run:

    validate specs raw = ok p → (p passes ↔ the defaults filled in do)          (passes_again_iff)
    validate specs raw = ok p → validate specs p = ok q → q = p                (eq_of_passes_again)
    c.invoke i answers with r, in a dry run → so does c with r's parameters    (dryRun_resubmitted)
-/

namespace CasefileHub

namespace ParameterSpec

/-- A value stands in for an absent one. -/
def FilledIn (raw : Json) (p : Parameters) (s : ParameterSpec) (v : Json) : Prop :=
  (∃ args, arguments raw = .ok args ∧ Entries.lookup s.name args = none) ∧
    p.get? s.name = some v

/-- The value is null or passes the check. -/
def Withstands (s : ParameterSpec) (v : Json) : Prop := v = .null ∨ s.check v = []

variable {specs : List ParameterSpec} {raw : Json} {p q : Parameters} {s : ParameterSpec}

theorem withstands_iff_faults {v : Json} (hoptional : s.required = false) :
    s.Withstands v ↔ s.faults (some v) = [] := by
  have hcheck : s.check v = [] ↔ s.faults (some v) = [] := List.map_eq_nil_iff
  rw [Withstands, hcheck, or_iff_right_iff_imp]
  rintro rfl
  show (if s.required = true then [Reason.null] else []) = []
  rw [hoptional]
  rfl

/-! ## Where a parameter comes from -/

/-- A parameter is a given value without faults, or the default of an optional one. -/
theorem parameter_cases (hd : Distinct specs) (h : validate specs raw = .ok p) (hs : s ∈ specs) :
    (∃ v, p.get? s.name = some v ∧ s.faults (some v) = [] ∧ ∀ w, ¬ s.FilledIn raw p w) ∨
      (s.required = false ∧ p.get? s.name = s.default ∧
        ∀ w, s.FilledIn raw p w ↔ s.default = some w) := by
  obtain ⟨args, hargs, hvs, rfl⟩ := validate_inversion h
  have hget : (parameters specs args).get? s.name = s.contribution args := by
    rw [parameters_eq, get?_foldl_of_mem hd hs rfl]
  have hclean : s.violations args = [] := violations_eq_nil hvs hs
  unfold violations at hclean
  unfold contribution at hget
  unfold FilledIn
  rw [hargs, hget]
  cases hlookup : Entries.lookup s.name args with
  | some v =>
    rw [hlookup] at hclean
    refine .inl ⟨v, rfl, List.map_eq_nil_iff.1 hclean, ?_⟩
    rintro w ⟨⟨args', hargs', habsent⟩, -⟩
    cases hargs'
    rw [hlookup] at habsent
    cases habsent
  | none =>
    rw [hlookup] at hclean
    have hoptional : s.required = false := by
      cases hrequired : s.required with
      | false => rfl
      | true => simp [hrequired] at hclean
    refine .inr ⟨hoptional, by simp [hoptional], fun w => ?_⟩
    simp only [hoptional, Bool.false_eq_true, if_false, and_iff_right_iff_imp]
    exact fun _ => ⟨args, rfl, hlookup⟩

/-- Every parameter has a specification. -/
theorem unknown_parameters (h : validate specs raw = .ok p) : unknown specs p = [] := by
  refine unknown_eq_nil_iff.2 fun name hname => ?_
  by_contra hno
  have hnot : name ∉ specs.map ParameterSpec.name := fun hmem => hno (List.mem_map.1 hmem)
  rw [Table.mem_names_iff, get?_eq_none_of_validate h hnot] at hname
  cases hname

/-- A parameter has no faults if it withstands the check where it was filled in. -/
theorem faults_parameter_iff (hd : Distinct specs) (h : validate specs raw = .ok p)
    (hs : s ∈ specs) :
    s.faults (p.get? s.name) = [] ↔ ∀ v, s.FilledIn raw p v → s.Withstands v := by
  rcases parameter_cases hd h hs with ⟨v, hv, hclean, hgiven⟩ | ⟨hoptional, hdefault, hfilled⟩
  · rw [hv]
    exact iff_of_true hclean fun w hw => absurd hw (hgiven w)
  · simp only [hdefault, hfilled, withstands_iff_faults hoptional]
    cases s.default with
    | none => simp [faults, hoptional]
    | some v => simp

/-! ## Parameters as arguments -/

/-- Parameters pass again if the defaults that were filled in do. -/
theorem passes_again_iff (hd : Distinct specs) (h : validate specs raw = .ok p) :
    (∃ q, validate specs p.toJson = .ok q) ↔
      ∀ s ∈ specs, ∀ v, s.FilledIn raw p v → s.Withstands v := by
  refine passes_iff.trans ?_
  rw [and_iff_left (unknown_parameters h)]
  exact forall₂_congr fun s hs => faults_parameter_iff hd h hs

/-- Parameters that pass again come back as they are: no default is left to fill in. -/
theorem eq_of_passes_again (hd : Distinct specs) (h : validate specs raw = .ok p)
    (hq : validate specs p.toJson = .ok q) : q = p := by
  refine Table.ext_get? fun name => Option.ext fun v => ?_
  rw [get?_parameters_iff hd hq, or_iff_left_iff_imp]
  rintro ⟨habsent, s, hs, rfl, -, hv⟩
  rcases parameter_cases hd h hs with ⟨w, hw, -, -⟩ | ⟨-, hdefault, -⟩
  · rw [habsent] at hw
    cases hw
  · rw [habsent, hv] at hdefault
    cases hdefault

theorem passes_again_of_withstands (hd : Distinct specs) (h : validate specs raw = .ok p)
    (hdefaults : ∀ s ∈ specs, ∀ v, s.default = some v → s.Withstands v) :
    validate specs p.toJson = .ok p := by
  have hpass : ∃ q, validate specs p.toJson = .ok q := by
    refine (passes_again_iff hd h).2 fun s hs v hfill => ?_
    rcases parameter_cases hd h hs with ⟨_, -, -, hgiven⟩ | ⟨-, -, hfilled⟩
    · exact absurd hfill (hgiven v)
    · exact hdefaults s hs v ((hfilled v).1 hfill)
  obtain ⟨q, hq⟩ := hpass
  rw [hq, eq_of_passes_again hd h hq]

end ParameterSpec

/-! ## Dry runs -/

namespace ToolCall

open ParameterSpec

variable {σ : Type} {c : ToolCall} {t : Tool} {i : Invoker σ} {d : Option Nat}
  {e e' : Environment σ} {r : ToolResult} {q : Quota}

/-- The call with the parameters of a result as its arguments. -/
def resubmitting (c : ToolCall) (r : ToolResult) : ToolCall := { c with raw := r.parameters.toJson }

/-- A dry run is answered with the parameters that its arguments come to. -/
theorem exists_of_dryRun (ht : c.tool? = some t) (hdry : c.options.dryRun = true)
    (h : c.invoke i d e = (some (.ok r, q), e')) :
    ∃ p, t.validate c.raw = .ok p ∧
      Admission.ofCall c.catalog c.name c.raw c.caller = .ok ⟨t, c.method? t, p⟩ ∧
      r = Invoker.preview ⟨t, c.method? t, p⟩ := by
  cases hcall : Admission.ofCall c.catalog c.name c.raw c.caller with
  | error err =>
    rw [invoke_of_refusal hcall] at h
    cases h
  | ok a =>
    rw [invoke_of_dryRun hcall hdry] at h
    cases h
    obtain ⟨p, hp, rfl⟩ := exists_of_admission ht hcall
    exact ⟨p, hp, rfl, rfl⟩

/-- The parameters that a dry run returns have the same answer, if every default withstands the
check. -/
theorem dryRun_resubmitted (ht : c.tool? = some t) (hd : Distinct t.parameters)
    (hdefaults : ∀ s ∈ t.parameters, ∀ v, s.default = some v → s.Withstands v)
    (hdry : c.options.dryRun = true) (h : c.invoke i d e = (some (.ok r, q), e')) :
    (c.resubmitting r).invoke i d e = c.invoke i d e := by
  obtain ⟨p, hp, hcall, rfl⟩ := exists_of_dryRun ht hdry h
  have hagain : t.validate p.toJson = .ok p := passes_again_of_withstands hd hp hdefaults
  have ht' : (c.resubmitting (Invoker.preview ⟨t, c.method? t, p⟩)).tool? = some t := ht
  have hcall' : Admission.ofCall c.catalog c.name p.toJson c.caller =
      .ok ⟨t, c.method? t, p⟩ := by
    rw [← hcall, ofCall_of_tool ht, requireValid_of_ok hp, ← requireValid_of_ok hagain]
    exact ofCall_of_tool ht'
  rw [invoke_of_dryRun hcall hdry]
  exact invoke_of_dryRun (c := c.resubmitting (Invoker.preview ⟨t, c.method? t, p⟩)) hcall' hdry

end ToolCall

namespace ParameterSpec

/-- **Revalidation.** Accepted parameters are accepted again if and only if each default that was
filled in is null or passes the check of its specification, and then they come back as they are. So
where every declared default is null or passes, the parameters that a dry run returns have the same
answer as the arguments they came from. -/
theorem revalidation {specs : List ParameterSpec} {raw : Json} {p : Parameters}
    (hd : Distinct specs) (h : validate specs raw = .ok p) :
    ((∃ q, validate specs p.toJson = .ok q) ↔
      ∀ s ∈ specs, ∀ v, s.FilledIn raw p v → v = .null ∨ s.check v = []) ∧
    (∀ q, validate specs p.toJson = .ok q → q = p) ∧
    (∀ s ∈ specs, ∀ v, s.FilledIn raw p v → s.required = false ∧ s.default = some v) ∧
    ((∀ s ∈ specs, ∀ v, s.default = some v → v = .null ∨ s.check v = []) →
      validate specs p.toJson = .ok p ∧
      ∀ (σ : Type) (i : Invoker σ) (c : ToolCall) t d e r q e', c.tool? = some t →
        t.parameters = specs → c.raw = raw → c.options.dryRun = true →
        c.invoke i d e = (some (.ok r, q), e') →
        r.parameters = p ∧ (c.resubmitting r).invoke i d e = c.invoke i d e) := by
  refine ⟨passes_again_iff hd h, fun q hq => eq_of_passes_again hd h hq, fun s hs v hfill => ?_,
    fun hdefaults => ⟨passes_again_of_withstands hd h hdefaults, ?_⟩⟩
  · rcases parameter_cases hd h hs with ⟨_, -, -, hgiven⟩ | ⟨hoptional, -, hfilled⟩
    · exact absurd hfill (hgiven v)
    · exact ⟨hoptional, (hfilled v).1 hfill⟩
  · rintro σ i c t d e r q e' ht rfl rfl hdry hrun
    obtain ⟨p', hp', -, rfl⟩ := ToolCall.exists_of_dryRun ht hdry hrun
    have hsame : p' = p := Except.ok.inj (hp'.symm.trans h)
    exact ⟨hsame, ToolCall.dryRun_resubmitted ht hd hdefaults hdry hrun⟩

/-- A task has a title, a priority of at most five, and perhaps a due date. -/
def task (priority : Int) : List ParameterSpec :=
  [{ name := "title", type := .string, required := true },
    { name := "priority", type := .integer, default := some (.int priority),
      maxValue := some (.finite (Binary64.ofInt 5)) },
    { name := "due", type := .string, default := some .null }]

/-- With a priority of three filled in, a task is accepted again as it is, and with one of seven it
is not. -/
theorem revalidation_task :
    (∃ p, validate (task 3) (.obj [("title", .str "t")]) = .ok p ∧
      validate (task 3) p.toJson = .ok p) ∧
    ∃ p, validate (task 7) (.obj [("title", .str "t")]) = .ok p ∧
      ¬ ∃ q, validate (task 7) p.toJson = .ok q := by
  have hd : ∀ n, Distinct (task n) :=
    fun n => (by decide : ["title", "priority", "due"].Nodup)
  have hpass : ∀ n : Int, n = 3 ∨ n = 7 → validate (task n) (.obj [("title", .str "t")]) =
      .ok (parameters (task n) [("title", .str "t")]) := by
    rintro n (rfl | rfl) <;> exact (validate_eq_ok_iff rfl).2 ⟨by decide +kernel, rfl⟩
  refine ⟨⟨_, hpass 3 (.inl rfl), ?_⟩, _, hpass 7 (.inr rfl), fun hq => ?_⟩
  · exact ((revalidation (hd 3) (hpass 3 (.inl rfl))).2.2.2 (by decide +kernel)).1
  · have hfilled : FilledIn (.obj [("title", .str "t")])
        (parameters (task 7) [("title", .str "t")]) (task 7)[1] (.int 7) :=
      ⟨⟨_, rfl, by decide +kernel⟩, by decide +kernel⟩
    rcases (revalidation (hd 7) (hpass 7 (.inr rfl))).1.1 hq _ (by decide +kernel) _ hfilled
      with hnull | hcheck
    · cases hnull
    · exact absurd hcheck (by decide +kernel)

end ParameterSpec

end CasefileHub
