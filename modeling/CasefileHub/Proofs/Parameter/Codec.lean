import Mathlib.Data.List.Induction
import CasefileHub.Catalog.Builtin
import CasefileHub.Proofs.Json.Codec
import CasefileHub.Proofs.Parameter.Validation
/-!
# Specifications that are written and read back

Specifications are written as JSON values, and read from them. The default null is written like no
default, and reads as none; everything else of a specification with finite bounds is read back.
Validation reports the same violations afterwards, and the parameters are the same but for the nulls
that came from defaults:

    s.Fits → decoder s.toJson = ok s.readBack                                (decoder_toJson)
    s.readBack = s ↔ s.default ≠ some null                                   (readBack_eq_iff)
    validate (specs.map readBack) raw = error vs ↔ validate specs raw = error vs
                                                                    (validate_readBack_error_iff)
    name is absent → (p'.get? name = p.get? name ↔ p.get? name ≠ some null)
                                                                    (get?_parameters_readBack_iff)
-/

namespace CasefileHub

theorem Bound.decoder_option {o : Option Bound} (h : ∀ b ∈ o, b.isFinite = true) :
    Bound.decoder.option (.ofOption Bound.toJson o) = .ok o := by
  cases o with
  | none => rfl
  | some b =>
    cases b with
    | finite x => rfl
    | infinite negative => cases h _ rfl
    | nan => cases h _ rfl

namespace ParameterSpec

variable {s : ParameterSpec} {specs : List ParameterSpec} {args : List (String × Json)}
  {raw : Json} {name : String}

/-! ## Reading back -/

/-- Values are normal, bounds are finite and lengths are machine words. -/
structure Fits (s : ParameterSpec) : Prop where
  default : ∀ v ∈ s.default, v.Normal
  allowed : ∀ l ∈ s.allowed, ∀ v ∈ l, v.Normal
  minValue : ∀ b ∈ s.minValue, b.isFinite = true
  maxValue : ∀ b ∈ s.maxValue, b.isFinite = true
  minLength : ∀ n ∈ s.minLength, n ≤ Nat.pow 2 64 - 1
  maxLength : ∀ n ∈ s.maxLength, n ≤ Nat.pow 2 64 - 1

instance (s : ParameterSpec) : Decidable s.Fits :=
  decidable_of_iff
    ((∀ v ∈ s.default, v.Normal) ∧ (∀ l ∈ s.allowed, ∀ v ∈ l, v.Normal) ∧
      (∀ b ∈ s.minValue, b.isFinite = true) ∧ (∀ b ∈ s.maxValue, b.isFinite = true) ∧
      (∀ n ∈ s.minLength, n ≤ Nat.pow 2 64 - 1) ∧ ∀ n ∈ s.maxLength, n ≤ Nat.pow 2 64 - 1)
    ⟨fun ⟨hd, ha, hlow, hhigh, hmin, hmax⟩ => ⟨hd, ha, hlow, hhigh, hmin, hmax⟩,
      fun ⟨hd, ha, hlow, hhigh, hmin, hmax⟩ => ⟨hd, ha, hlow, hhigh, hmin, hmax⟩⟩

/-- The specification without a default that is null. -/
def readBack (s : ParameterSpec) : ParameterSpec :=
  { s with default := s.default.filter (!·.isNull) }

theorem type_decoder (t : ParameterType) : ParameterType.decoder (.str t.text) = .ok t := by
  cases t <;> rfl

/-- Null and no default are written alike. -/
theorem default_decoder {default : Option Json} (h : ∀ v ∈ default, v.Normal) :
    Decoder.json.option (default.getD .null) = .ok (default.filter (!·.isNull)) := by
  cases default with
  | none => rfl
  | some v =>
    by_cases hnull : v = .null
    · rw [hnull]
      rfl
    · have hkeep : (some v).filter (!·.isNull) = some v := by
        cases v with
        | null => exact absurd rfl hnull
        | _ => rfl
      rw [hkeep, Option.getD_some, Decoder.option_of_ne_null _ hnull,
        Decoder.json_of_normal (h v rfl)]
      rfl

theorem decoder_toJson (h : s.Fits) : decoder s.toJson = .ok s.readBack := by
  obtain ⟨name, type, required, description, default, minValue, maxValue, minLength, maxLength,
    allowed, pattern⟩ := s
  obtain ⟨hdefault, hallowed, hlow, hhigh, hmin, hmax⟩ := h
  have hlist : (Decoder.list .json).option (.ofOption .arr allowed) = .ok allowed :=
    Decoder.option_ofOption (fun l hl => Decoder.list_json (hallowed l hl)) (by simp)
  refine Decoder.record_of_names ["default", "description", "enum", "max_length", "max_value",
    "min_length", "min_value", "name", "pattern", "required", "type"] rfl (by decide) fun hms => ?_
  refine .seq ?_ (Fields.yields_optional hms rfl (Decoder.option_text pattern))
  refine .seq ?_ (Fields.yields_optional hms rfl hlist)
  refine .seq ?_ (Fields.yields_optional hms rfl (Decoder.option_nat hmax _))
  refine .seq ?_ (Fields.yields_optional hms rfl (Decoder.option_nat hmin _))
  refine .seq ?_ (Fields.yields_optional hms rfl (Bound.decoder_option hhigh))
  refine .seq ?_ (Fields.yields_optional hms rfl (Bound.decoder_option hlow))
  refine .seq ?_ (Fields.yields_optional hms rfl (default_decoder hdefault))
  refine .seq ?_ (Fields.yields_optional hms rfl (Decoder.option_text description))
  refine .seq ?_ (Fields.yields_withDefault hms rfl rfl)
  refine .seq ?_ (Fields.yields_required hms rfl (type_decoder type))
  exact .map mk (Fields.yields_required hms rfl rfl)

theorem readBack_eq_iff : s.readBack = s ↔ s.default ≠ some .null := by
  constructor
  · intro heq hnull
    have hlost : s.readBack.default = none := by
      unfold readBack
      rw [hnull]
      rfl
    rw [heq, hnull] at hlost
    cases hlost
  · intro hne
    have hkeep : s.default.filter (!·.isNull) = s.default := by
      cases hd : s.default with
      | none => rfl
      | some v =>
        cases v with
        | null => exact absurd hd hne
        | _ => rfl
    unfold readBack
    rw [hkeep]

theorem map_readBack_eq_iff :
    specs.map readBack = specs ↔ ∀ s ∈ specs, s.default ≠ some .null := by
  constructor
  · intro heq s hs
    refine readBack_eq_iff.1 ?_
    exact List.map_eq_map_iff.1 (heq.trans specs.map_id.symm) s hs
  · intro h
    rw [List.map_congr_left fun s hs => readBack_eq_iff.2 (h s hs), List.map_id']

/-! ## The same violations -/

section
variable [PatternEngine]

theorem allViolations_readBack (specs : List ParameterSpec) (args : List (String × Json)) :
    allViolations (specs.map readBack) args = allViolations specs args := by
  unfold allViolations unknownNames
  simp only [List.flatMap_map, List.any_map]
  rfl

/-- Whether arguments pass does not depend on the defaults. -/
theorem validate_readBack (specs : List ParameterSpec) (raw : Json) :
    validate (specs.map readBack) raw =
      match validate specs raw with
      | .error vs => .error vs
      | .ok _ => parameters (specs.map readBack) <$> arguments raw := by
  unfold validate
  cases arguments raw with
  | error vs => rfl
  | ok args =>
    simp only [bind, Except.bind, allViolations_readBack]
    cases allViolations specs args <;> rfl

theorem validate_readBack_error_iff {vs : List Violation} :
    validate (specs.map readBack) raw = .error vs ↔ validate specs raw = .error vs := by
  rw [validate_readBack]
  cases h : validate specs raw with
  | error vs' => rfl
  | ok p =>
    obtain ⟨args, hargs, -, -⟩ := validate_inversion h
    rw [hargs]
    exact iff_of_false (by rintro ⟨⟩) (by rintro ⟨⟩)

end

/-! ## The parameters -/

theorem contribution_of_present {v : Json} (h : Entries.lookup s.name args = some v) :
    s.contribution args = some v := by
  simp only [contribution, h]

theorem contribution_readBack_of_absent (h : Entries.lookup s.name args = none) :
    s.readBack.contribution args = (s.contribution args).filter (!·.isNull) := by
  have hname : s.readBack.name = s.name := rfl
  have hrequired : s.readBack.required = s.required := rfl
  simp only [contribution, hname, hrequired, h]
  cases s.required <;> rfl

theorem parameters_concat (specs : List ParameterSpec) (s : ParameterSpec)
    (args : List (String × Json)) :
    parameters (specs ++ [s]) args = gather args (parameters specs args) s := by
  rw [parameters_eq, parameters_eq, List.foldl_append]
  rfl

/-- An argument stands for itself. -/
theorem get?_parameters_readBack_of_present {v : Json} (h : Entries.lookup name args = some v) :
    (parameters (specs.map readBack) args).get? name = (parameters specs args).get? name := by
  induction specs using List.reverseRecOn with
  | nil => rfl
  | append_singleton specs s ih =>
    rw [List.map_append, List.map_singleton, parameters_concat, parameters_concat, get?_gather,
      get?_gather, ih]
    by_cases hname : name = s.name
    · have hlookup : Entries.lookup s.name args = some v := hname ▸ h
      have hback : s.readBack.contribution args = some v := contribution_of_present hlookup
      rw [if_pos hname, if_pos (show name = s.readBack.name from hname),
        contribution_of_present hlookup, hback]
    · rw [if_neg hname, if_neg (show name ≠ s.readBack.name from hname)]

/-- For an absent argument null no longer counts: the parameter is the same if it was not null, and
is not null afterwards. -/
theorem get?_parameters_readBack_of_absent (specs : List ParameterSpec)
    (h : Entries.lookup name args = none) :
    ((parameters specs args).get? name ≠ some .null →
      (parameters (specs.map readBack) args).get? name = (parameters specs args).get? name) ∧
    (parameters (specs.map readBack) args).get? name ≠ some .null := by
  induction specs using List.reverseRecOn with
  | nil => exact ⟨fun _ => rfl, by simp [parameters_eq]⟩
  | append_singleton specs s ih =>
    rw [List.map_append, List.map_singleton, parameters_concat, parameters_concat, get?_gather,
      get?_gather]
    by_cases hname : name = s.name
    · rw [if_pos hname, if_pos (show name = s.readBack.name from hname),
        contribution_readBack_of_absent (hname ▸ h)]
      cases s.contribution args with
      | none => exact ih
      | some v =>
        cases v with
        | null => exact ⟨fun hne => absurd rfl hne, ih.2⟩
        | _ => exact ⟨fun _ => rfl, by simp [Option.filter, Json.isNull]⟩
    · rw [if_neg hname, if_neg (show name ≠ s.readBack.name from hname)]
      exact ih

/-- What is lost: the nulls that came from defaults. -/
theorem get?_parameters_readBack_iff (specs : List ParameterSpec) (args : List (String × Json))
    (name : String) :
    (parameters (specs.map readBack) args).get? name = (parameters specs args).get? name ↔
      ¬ (Entries.lookup name args = none ∧ (parameters specs args).get? name = some .null) := by
  cases h : Entries.lookup name args with
  | some v => exact iff_of_true (get?_parameters_readBack_of_present h) (by simp)
  | none =>
    obtain ⟨hsame, hnot⟩ := get?_parameters_readBack_of_absent specs h
    constructor
    · rintro heq ⟨-, hnull⟩
      exact hnot (heq.trans hnull)
    · intro hne
      exact hsame fun hnull => hne ⟨rfl, hnull⟩

theorem distinct_readBack (hd : Distinct specs) : Distinct (specs.map readBack) := by
  unfold Distinct
  rw [List.map_map]
  exact hd

/-- Where names are distinct, what is lost is absent afterwards. -/
theorem get?_parameters_readBack_of_null (hd : Distinct specs)
    (h : Entries.lookup name args = none)
    (hnull : (parameters specs args).get? name = some .null) :
    (parameters (specs.map readBack) args).get? name = none := by
  by_cases hmem : name ∈ specs.map ParameterSpec.name
  · obtain ⟨s, hs, rfl⟩ := List.mem_map.1 hmem
    have hbefore : s.contribution args = some .null := by
      rw [← hnull, parameters_eq]
      exact (get?_foldl_of_mem hd hs rfl).symm
    have hafter : (parameters (specs.map readBack) args).get? s.name = s.readBack.contribution args :=
      get?_foldl_of_mem (distinct_readBack hd) (List.mem_map_of_mem hs) rfl
    rw [hafter, contribution_readBack_of_absent h, hbefore]
    rfl
  · rw [parameters_eq, get?_foldl_of_not_mem hmem] at hnull
    cases hnull

end ParameterSpec

/-! ## Tools -/

namespace ToolMetadata

theorem decoder_toJson (m : ToolMetadata) : decoder m.toJson = .ok m := by
  obtain ⟨name, displayName, description, category, version, tags, docLinks⟩ := m
  refine Decoder.record_of_names ["category", "description", "display_name", "doc_links", "name",
    "tags", "version"] rfl (by decide) fun hms => ?_
  refine .seq ?_ (Fields.yields_withDefault hms rfl (Decoder.list_text docLinks))
  refine .seq ?_ (Fields.yields_withDefault hms rfl (Decoder.list_text tags))
  refine .seq ?_ (Fields.yields_withDefault hms rfl rfl)
  refine .seq ?_ (Fields.yields_withDefault hms rfl rfl)
  refine .seq ?_ (Fields.yields_withDefault hms rfl rfl)
  refine .seq ?_ (Fields.yields_withDefault hms rfl rfl)
  exact .map mk (Fields.yields_required hms rfl rfl)

end ToolMetadata

namespace ToolRules

/-- Numbers are machine words. -/
structure Fits (r : ToolRules) : Prop where
  perMinute : ∀ n ∈ r.perMinute, n ≤ Nat.pow 2 32 - 1
  perHour : ∀ n ∈ r.perHour, n ≤ Nat.pow 2 32 - 1
  timeoutSeconds : ∀ n ∈ r.timeoutSeconds, n ≤ Nat.pow 2 64 - 1

instance (r : ToolRules) : Decidable r.Fits :=
  decidable_of_iff
    ((∀ n ∈ r.perMinute, n ≤ Nat.pow 2 32 - 1) ∧ (∀ n ∈ r.perHour, n ≤ Nat.pow 2 32 - 1) ∧
      ∀ n ∈ r.timeoutSeconds, n ≤ Nat.pow 2 64 - 1)
    ⟨fun ⟨hminute, hhour, htimeout⟩ => ⟨hminute, hhour, htimeout⟩,
      fun ⟨hminute, hhour, htimeout⟩ => ⟨hminute, hhour, htimeout⟩⟩

theorem decoder_toJson {r : ToolRules} (h : r.Fits) : decoder r.toJson = .ok r := by
  obtain ⟨enabled, deprecated, message, requiresAuth, permissions, roles, perMinute, perHour,
    timeoutSeconds, maxRetries, requiresCasefile⟩ := r
  obtain ⟨hminute, hhour, htimeout⟩ := h
  refine Decoder.record_of_names ["allowed_roles", "deprecated", "deprecation_message", "enabled",
    "max_retries", "rate_limit_per_hour", "rate_limit_per_minute", "required_permissions",
    "requires_auth", "requires_casefile", "timeout_seconds"] rfl (by decide) fun hms => ?_
  refine .seq ?_ (Fields.yields_withDefault hms rfl rfl)
  refine .seq ?_ (Fields.yields_withDefault hms rfl (Decoder.uint32_nat maxRetries))
  refine .seq ?_ (Fields.yields_withDefault hms rfl (Decoder.option_nat htimeout _))
  refine .seq ?_ (Fields.yields_optional hms rfl (Decoder.option_nat hhour _))
  refine .seq ?_ (Fields.yields_optional hms rfl (Decoder.option_nat hminute _))
  refine .seq ?_ (Fields.yields_withDefault hms rfl (Decoder.list_text roles))
  refine .seq ?_ (Fields.yields_withDefault hms rfl (Decoder.list_text permissions))
  refine .seq ?_ (Fields.yields_withDefault hms rfl rfl)
  refine .seq ?_ (Fields.yields_optional hms rfl (Decoder.option_text message))
  refine .seq ?_ (Fields.yields_withDefault hms rfl rfl)
  exact .map mk (Fields.yields_withDefault hms rfl rfl)

end ToolRules

namespace Tool

variable {t : Tool}

/-- The rules and the parameters fit. -/
structure Fits (t : Tool) : Prop where
  rules : t.rules.Fits
  parameters : ∀ s ∈ t.parameters, s.Fits

instance (t : Tool) : Decidable t.Fits :=
  decidable_of_iff (t.rules.Fits ∧ ∀ s ∈ t.parameters, s.Fits)
    ⟨fun ⟨hrules, hparameters⟩ => ⟨hrules, hparameters⟩,
      fun ⟨hrules, hparameters⟩ => ⟨hrules, hparameters⟩⟩

/-- The tool whose parameters have no default that is null. -/
def readBack (t : Tool) : Tool := { t with parameters := t.parameters.map ParameterSpec.readBack }

theorem decoder_toJson (h : t.Fits) : decoder t.toJson = .ok t.readBack := by
  obtain ⟨info, rules, parameters, methodName⟩ := t
  obtain ⟨hrules, hparameters⟩ := h
  have hspecs : Decoder.list ParameterSpec.decoder (.arr (parameters.map ParameterSpec.toJson)) =
      .ok (parameters.map ParameterSpec.readBack) :=
    Decoder.list_of_map fun s hs => ParameterSpec.decoder_toJson (hparameters s hs)
  refine Decoder.record_of_names ["business_rules", "metadata", "method_name", "parameters"] rfl
    (by decide) fun hms => ?_
  refine .seq ?_ (Fields.yields_optional hms rfl (Decoder.option_text methodName))
  refine .seq ?_ (Fields.yields_withDefault hms rfl hspecs)
  refine .seq ?_ (Fields.yields_withDefault hms rfl (ToolRules.decoder_toJson hrules))
  exact .map mk (Fields.yields_required hms rfl (ToolMetadata.decoder_toJson info))

theorem readBack_eq_iff : t.readBack = t ↔ ∀ s ∈ t.parameters, s.default ≠ some .null := by
  rw [← ParameterSpec.map_readBack_eq_iff]
  obtain ⟨info, rules, parameters, methodName⟩ := t
  simp [readBack]

/-- Raw arguments that pass still pass, and the parameters differ in the nulls from defaults only. -/
theorem validate_readBack_of_ok {raw : Json} {p : Parameters} (h : t.validate raw = .ok p) :
    ∃ args p', ParameterSpec.arguments raw = .ok args ∧ t.readBack.validate raw = .ok p' ∧
      (∀ name, p'.get? name = p.get? name ↔
        ¬ (Entries.lookup name args = none ∧ p.get? name = some .null)) ∧
      (ParameterSpec.Distinct t.parameters → ∀ name, Entries.lookup name args = none →
        p.get? name = some .null → p'.get? name = none) := by
  obtain ⟨args, hargs, -, rfl⟩ := ParameterSpec.validate_inversion h
  refine ⟨args, ParameterSpec.parameters (t.parameters.map ParameterSpec.readBack) args, hargs, ?_,
    ParameterSpec.get?_parameters_readBack_iff t.parameters args, fun hd name =>
      ParameterSpec.get?_parameters_readBack_of_null hd⟩
  show ParameterSpec.validate (t.parameters.map ParameterSpec.readBack) raw = _
  rw [ParameterSpec.validate_readBack, show ParameterSpec.validate t.parameters raw = _ from h, hargs]
  rfl

end Tool

/-! ## The round trip -/

/-- **A default that is null is lost in writing, and nothing else.** A specification is read back
without such a default, so it survives exactly if it has none, and so does a tool exactly if none of
its parameters has one. The tool that is read back finds the same violations in any raw arguments.
Where there are none it gives the same parameters, save the nulls of names that are absent from the
arguments, which are gone. What is written and read are JSON values, not their texts. -/
theorem written_tool_reads_back_iff (t : Tool) (ht : t.Fits) :
    (∀ s : ParameterSpec, s.Fits → ParameterSpec.decoder s.toJson = .ok s.readBack ∧
      (ParameterSpec.decoder s.toJson = .ok s ↔ s.default ≠ some .null)) ∧
    (∀ m ∈ builtinModels, ∀ s ∈ m.parameters, s.Fits) ∧
    Tool.decoder t.toJson = .ok t.readBack ∧
    (Tool.decoder t.toJson = .ok t ↔ ∀ s ∈ t.parameters, s.default ≠ some .null) ∧
    (∀ raw vs, t.readBack.validate raw = .error vs ↔ t.validate raw = .error vs) ∧
    ∀ raw p, t.validate raw = .ok p →
      ∃ args p', ParameterSpec.arguments raw = .ok args ∧ t.readBack.validate raw = .ok p' ∧
        (∀ name, p'.get? name = p.get? name ↔
          ¬ (Entries.lookup name args = none ∧ p.get? name = some .null)) ∧
        (ParameterSpec.Distinct t.parameters → ∀ name, Entries.lookup name args = none →
          p.get? name = some .null → p'.get? name = none) := by
  have htool := Tool.decoder_toJson ht
  refine ⟨fun s hs => ?_, by decide +kernel, htool, ?_,
    fun raw vs => ParameterSpec.validate_readBack_error_iff, fun raw p h =>
      Tool.validate_readBack_of_ok h⟩
  · have hspec := ParameterSpec.decoder_toJson hs
    refine ⟨hspec, ?_⟩
    rw [hspec, Except.ok.injEq]
    exact ParameterSpec.readBack_eq_iff
  · rw [htool, Except.ok.injEq]
    exact Tool.readBack_eq_iff

/-- The built-in tool that adds a session to a casefile. -/
def linkTool : Tool :=
  .forMethod .addSession "add_session_to_casefile_tool" "casefile"
    { requiresAuth := true, requiresCasefile := true, maxRetries := 2 }

/-- The built-in tool that creates a casefile. -/
def createTool : Tool :=
  .forMethod .createCasefile "create_casefile_tool" "casefile"
    { requiresAuth := true, perMinute := some 30 }

/-- A tool all of whose parameters are required survives. -/
theorem linkTool_reads_back : linkTool.Fits ∧ Tool.decoder linkTool.toJson = .ok linkTool := by
  have hfits : linkTool.Fits := by decide +kernel
  exact ⟨hfits, (written_tool_reads_back_iff linkTool hfits).2.2.2.1.2 (by decide +kernel)⟩

/-- The description of a casefile is null by default, and is gone from the parameters once the tool
has been written and read. Three models have such parameters. -/
theorem createTool_does_not_read_back :
    createTool ∈ Tool.builtin ∧ createTool.Fits ∧
    Tool.decoder createTool.toJson = .ok createTool.readBack ∧
    createTool.readBack ≠ createTool ∧
    createTool.validate (.obj [("title", .str "t")]) =
      .ok (.ofList [("description", .null), ("tags", .arr []), ("title", .str "t")]) ∧
    createTool.readBack.validate (.obj [("title", .str "t")]) =
      .ok (.ofList [("tags", .arr []), ("title", .str "t")]) ∧
    (builtinModels.flatMap fun m =>
      (m.parameters.filter (·.default == some .null)).map fun s => (m.name, s.name)) =
      [("CreateCasefileRequest", "description"), ("CreateSessionRequest", "title"),
        ("CreateCasefileWithSessionRequest", "description"),
        ("CreateCasefileWithSessionRequest", "session_title")] := by
  have hfits : createTool.Fits := by decide +kernel
  refine ⟨List.mem_cons_self, hfits, Tool.decoder_toJson hfits, by decide +kernel, rfl, rfl,
    by decide +kernel⟩

end CasefileHub
