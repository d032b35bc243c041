import CasefileHub.Parameter.Validation
/-!
# Validated parameters

What validation promises of its parameters. A specification *accepts* a value, or the absence of
one, if a present value has no reasons against it and a required one is present. Where names are
distinct and defaults are acceptable, each parameter is accepted by its specification, and there are
no others:

    validate specs raw = ok p → s ∈ specs → s.Accepts (p.get? s.name)        (accepts_of_validate)
    validate specs raw = ok p → name has no specification → p.get? name = none
                                                                       (get?_eq_none_of_validate)
-/

namespace CasefileHub.ParameterSpec

section
variable [PatternEngine]

/-- Nothing is wrong with a value, or with its absence. -/
def Accepts (s : ParameterSpec) : Option Json → Prop
  | some v => s.reasons v = []
  | none => s.required = false

instance (s : ParameterSpec) (v : Option Json) : Decidable (s.Accepts v) := by
  unfold Accepts
  cases v <;> infer_instance

/-- The default of an optional parameter is an acceptable value. -/
def DefaultAccepted (s : ParameterSpec) : Prop := s.required = false → s.Accepts s.default

instance (s : ParameterSpec) : Decidable s.DefaultAccepted := by
  unfold DefaultAccepted
  infer_instance

end

/-- Names are distinct. -/
def Distinct (specs : List ParameterSpec) : Prop := (specs.map ParameterSpec.name).Nodup

instance (specs : List ParameterSpec) : Decidable (Distinct specs) := by
  unfold Distinct
  infer_instance

/-! ## What passes -/

section
variable [PatternEngine]

theorem validate_inversion {specs : List ParameterSpec} {raw : Json} {p : Parameters}
    (h : validate specs raw = .ok p) :
    ∃ args, arguments raw = .ok args ∧ allViolations specs args = [] ∧
      p = parameters specs args := by
  unfold validate at h
  cases hargs : arguments raw with
  | error vs =>
    rw [hargs] at h
    cases h
  | ok args =>
    rw [hargs] at h
    cases hvs : allViolations specs args with
    | nil =>
      simp only [bind, Except.bind, hvs] at h
      cases h
      exact ⟨args, rfl, hvs, rfl⟩
    | cons v vs =>
      simp only [bind, Except.bind, hvs] at h
      cases h

theorem violations_eq_nil {specs : List ParameterSpec} {args : List (String × Json)}
    (h : allViolations specs args = []) {s : ParameterSpec} (hs : s ∈ specs) :
    s.violations args = [] :=
  List.flatMap_eq_nil_iff.1 (List.append_eq_nil_iff.1 h).1 s hs

/-- Without violations, a specification accepts what it contributes. -/
theorem accepts_contribution {s : ParameterSpec} {args : List (String × Json)}
    (hdefault : s.DefaultAccepted) (h : s.violations args = []) :
    s.Accepts (s.contribution args) := by
  unfold violations at h
  unfold contribution
  cases hv : Entries.lookup s.name args with
  | some v =>
    rw [hv] at h
    exact List.map_eq_nil_iff.1 h
  | none =>
    rw [hv] at h
    cases hreq : s.required with
    | true => simp [hreq] at h
    | false =>
      simp only [Bool.false_eq_true, if_false]
      exact hdefault hreq

end

/-! ## The parameters -/

/-- The parameters with what one more specification contributes. -/
def gather (args : List (String × Json)) (p : Parameters) (s : ParameterSpec) : Parameters :=
  match s.contribution args with
  | some v => p.insert s.name v
  | none => p

theorem parameters_eq (specs : List ParameterSpec) (args : List (String × Json)) :
    parameters specs args = specs.foldl (gather args) .empty := rfl

theorem get?_gather (args : List (String × Json)) (p : Parameters) (s : ParameterSpec)
    (name : String) :
    (gather args p s).get? name =
      if name = s.name then (s.contribution args).or (p.get? name) else p.get? name := by
  unfold gather
  cases s.contribution args with
  | some v => exact Table.get?_insert p s.name name v
  | none => simp

/-- A name that no specification has is left alone. -/
theorem get?_foldl_of_not_mem {args : List (String × Json)} {name : String}
    {specs : List ParameterSpec} {p : Parameters} (h : name ∉ specs.map ParameterSpec.name) :
    (specs.foldl (gather args) p).get? name = p.get? name := by
  induction specs generalizing p with
  | nil => rfl
  | cons s rest ih =>
    simp only [List.map_cons, List.mem_cons, not_or] at h
    rw [List.foldl_cons, ih h.2, get?_gather, if_neg h.1]

/-- Each specification contributes the value of its name. -/
theorem get?_foldl_of_mem {args : List (String × Json)} {specs : List ParameterSpec}
    {p : Parameters} (hdistinct : Distinct specs) {s : ParameterSpec} (hs : s ∈ specs)
    (hp : p.get? s.name = none) :
    (specs.foldl (gather args) p).get? s.name = s.contribution args := by
  induction specs generalizing p with
  | nil => cases hs
  | cons first rest ih =>
    obtain ⟨hnot, hrest⟩ := List.nodup_cons.1 hdistinct
    rw [List.foldl_cons]
    rcases List.mem_cons.1 hs with rfl | hmem
    · rw [get?_foldl_of_not_mem hnot, get?_gather, if_pos rfl, hp, Option.or_none]
    · have hne : s.name ≠ first.name := by
        intro heq
        exact hnot (heq ▸ List.mem_map_of_mem hmem)
      refine ih hrest hmem ?_
      rw [get?_gather, if_neg hne, hp]

variable [PatternEngine]

/-- **Validated parameters are accepted.** -/
theorem accepts_of_validate {specs : List ParameterSpec} {raw : Json} {p : Parameters}
    (h : validate specs raw = .ok p) (hdistinct : Distinct specs) {s : ParameterSpec}
    (hs : s ∈ specs) (hdefault : s.DefaultAccepted) : s.Accepts (p.get? s.name) := by
  obtain ⟨args, -, hvs, rfl⟩ := validate_inversion h
  rw [parameters_eq, get?_foldl_of_mem hdistinct hs rfl]
  exact accepts_contribution hdefault (violations_eq_nil hvs hs)

theorem get?_eq_none_of_validate {specs : List ParameterSpec} {raw : Json} {p : Parameters}
    (h : validate specs raw = .ok p) {name : String} (hname : name ∉ specs.map ParameterSpec.name) :
    p.get? name = none := by
  obtain ⟨args, -, -, rfl⟩ := validate_inversion h
  rw [parameters_eq, get?_foldl_of_not_mem hname]
  rfl

/-! ## What an accepted value is -/

/-- An accepted value has the type, unless it is the null of an optional parameter. -/
theorem admits_of_accepts {s : ParameterSpec} {v : Json} (h : s.Accepts (some v)) :
    s.type.admits v = true ∨ (v = .null ∧ s.required = false) := by
  simp only [Accepts, reasons] at h
  by_cases hnull : v.isNull = true
  · right
    rw [if_pos hnull] at h
    refine ⟨?_, ?_⟩
    · cases v with
      | null => rfl
      | _ => cases hnull
    · cases hreq : s.required with
      | false => rfl
      | true => rw [hreq] at h; cases h
  · left
    rw [if_neg hnull] at h
    by_cases hadmits : s.type.admits v = true
    · exact hadmits
    · rw [if_neg hadmits] at h
      cases h

theorem exists_of_accepts {s : ParameterSpec} {v : Option Json} (h : s.Accepts v)
    (hreq : s.required = true) : ∃ w, v = some w := by
  cases v with
  | some w => exact ⟨w, rfl⟩
  | none => exact absurd (hreq.symm.trans h) (by decide)

/-- Some specification has the name and the type, is required or not, and has a good default. -/
def Declares (specs : List ParameterSpec) (name : String) (type : ParameterType)
    (required : Bool) : Prop :=
  ∃ s ∈ specs, s.name = name ∧ s.type = type ∧ s.required = required ∧ s.DefaultAccepted

instance (specs : List ParameterSpec) (name : String) (type : ParameterType) (required : Bool) :
    Decidable (Declares specs name type required) := by
  unfold Declares
  infer_instance

/-- **The type of a declared parameter.** It is there if it is required, and has the type, unless it
is the null of an optional one. -/
theorem typed_of_validate {specs : List ParameterSpec} {raw : Json} {p : Parameters}
    (h : validate specs raw = .ok p) (hdistinct : Distinct specs) {name : String}
    {type : ParameterType} {required : Bool} (hd : Declares specs name type required) :
    (required = true → ∃ v, p.get? name = some v) ∧
    ∀ v, p.get? name = some v → type.admits v = true ∨ (v = .null ∧ required = false) := by
  obtain ⟨s, hs, rfl, rfl, rfl, hdefault⟩ := hd
  have haccepts := accepts_of_validate h hdistinct hs hdefault
  refine ⟨exists_of_accepts haccepts, fun v hv => ?_⟩
  rw [hv] at haccepts
  exact admits_of_accepts haccepts

end CasefileHub.ParameterSpec
