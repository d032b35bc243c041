import CasefileHub.Payload
import CasefileHub.Proofs.Json.Decode
import CasefileHub.Proofs.Parameter.Validation
/-!
# Validated parameters as payloads

The parameters of a model come from its schema, and what they accept need not be what its reader
takes: an optional parameter accepts null and an array any items. Of the built-in models this
matters for two fields only, so parameters that are validated read as a payload exactly if they are
*readable*:

    validate (Payload.parameters α) raw = ok p →
      (Payload.decoder.Takes p.toJson ↔ p.Readable)              (createCasefile_takes_iff, …)
-/

namespace CasefileHub

namespace Parameters

/-- Tags are texts, and the choice to start a session is not null. -/
structure Readable (p : Parameters) : Prop where
  tags : ∀ v, p.get? "tags" = some v → ∃ l : List String, v = .strings l
  choice : p.get? "auto_start_session" ≠ some .null

/-- Tags that are texts are those that a list of texts takes. -/
theorem tags_takes_iff (p : Parameters) :
    (∀ v, p.get? "tags" = some v → (Decoder.list .text).Takes v) ↔
      ∀ v, p.get? "tags" = some v → ∃ l : List String, v = .strings l := by
  simp only [Decoder.list_text_takes_iff]

end Parameters

namespace ParameterSpec

variable {specs : List ParameterSpec} {raw : Json} {p : Parameters}

/-! ## Values of a type -/

theorem string_admits {v : Json} (h : ParameterType.string.admits v = true) : ∃ s, v = .str s := by
  cases v with
  | str s => exact ⟨s, rfl⟩
  | _ => cases h

theorem boolean_admits {v : Json} (h : ParameterType.boolean.admits v = true) :
    ∃ b, v = .bool b := by
  cases v with
  | bool b => exact ⟨b, rfl⟩
  | _ => cases h

/-- A required text is there. -/
theorem text_takes_of_validate (h : validate specs raw = .ok p) (hdistinct : Distinct specs)
    (name : String) (hd : Declares specs name .string true) :
    ∃ v, p.get? name = some v ∧ Decoder.text.Takes v := by
  obtain ⟨hthere, htyped⟩ := typed_of_validate h hdistinct hd
  obtain ⟨v, hv⟩ := hthere rfl
  refine ⟨v, hv, (Decoder.text_takes_iff v).2 ?_⟩
  rcases htyped v hv with hadmits | ⟨-, hreq⟩
  · exact string_admits hadmits
  · cases hreq

/-- An optional text is a text or null. -/
theorem optionalText_takes_of_validate (h : validate specs raw = .ok p)
    (hdistinct : Distinct specs) (name : String) (hd : Declares specs name .string false) :
    ∀ v, p.get? name = some v → v = .null ∨ Decoder.text.Takes v := by
  intro v hv
  rcases (typed_of_validate h hdistinct hd).2 v hv with hadmits | ⟨hnull, -⟩
  · exact .inr ((Decoder.text_takes_iff v).2 (string_admits hadmits))
  · exact .inl hnull

/-- An optional truth value is taken exactly if it is not null. -/
theorem bool_takes_iff_of_validate (h : validate specs raw = .ok p) (hdistinct : Distinct specs)
    (name : String) (hd : Declares specs name .boolean false) :
    (∀ v, p.get? name = some v → Decoder.bool.Takes v) ↔ p.get? name ≠ some .null := by
  constructor
  · intro htakes hnull
    obtain ⟨b, hb⟩ := htakes .null hnull
    cases hb
  · intro hne v hv
    rcases (typed_of_validate h hdistinct hd).2 v hv with hadmits | ⟨rfl, -⟩
    · exact (Decoder.bool_takes_iff v).2 (boolean_admits hadmits)
    · exact absurd hv hne

end ParameterSpec

/-! ## The models -/

open ParameterSpec Fields

variable {raw : Json} {p : Parameters}

/-- Without tags and a choice among the specifications, parameters are readable. -/
theorem readable_of_validate {specs : List ParameterSpec} (h : validate specs raw = .ok p)
    (htags : "tags" ∉ specs.map ParameterSpec.name)
    (hchoice : "auto_start_session" ∉ specs.map ParameterSpec.name) : p.Readable := by
  refine ⟨fun v hv => ?_, ?_⟩
  · rw [get?_eq_none_of_validate h htags] at hv
    cases hv
  · rw [get?_eq_none_of_validate h hchoice]
    simp

theorem createCasefile_takes_iff (h : validate (Payload.parameters CreateCasefile) raw = .ok p) :
    (Payload.decoder : Decoder CreateCasefile).Takes p.toJson ↔ p.Readable := by
  have hd : Distinct (Payload.parameters CreateCasefile) := by decide
  have htitle := text_takes_of_validate h hd "title" (by decide)
  have hdescription := optionalText_takes_of_validate h hd "description" (by decide)
  have hchoice : p.get? "auto_start_session" = none := get?_eq_none_of_validate h (by decide)
  refine (Decoder.record_takes_iff _ _ p.entries).trans ?_
  rw [reads_seq, reads_seq, reads_map, reads_required p.ascending, reads_optional p.ascending,
    reads_withDefault p.ascending]
  constructor
  · rintro ⟨-, htags⟩
    exact ⟨p.tags_takes_iff.1 htags, by rw [hchoice]; simp⟩
  · intro hp
    exact ⟨⟨htitle, hdescription⟩, p.tags_takes_iff.2 hp.tags⟩

theorem getCasefile_takes_iff (h : validate (Payload.parameters GetCasefile) raw = .ok p) :
    (Payload.decoder : Decoder GetCasefile).Takes p.toJson ↔ p.Readable := by
  have hd : Distinct (Payload.parameters GetCasefile) := by decide
  refine iff_of_true ?_ (readable_of_validate h (by decide) (by decide))
  refine (Decoder.record_takes_iff _ _ p.entries).2 ?_
  rw [reads_map, reads_required p.ascending]
  exact text_takes_of_validate h hd "casefile_id" (by decide)

theorem addSession_takes_iff (h : validate (Payload.parameters AddSession) raw = .ok p) :
    (Payload.decoder : Decoder AddSession).Takes p.toJson ↔ p.Readable := by
  have hd : Distinct (Payload.parameters AddSession) := by decide
  refine iff_of_true ?_ (readable_of_validate h (by decide) (by decide))
  refine (Decoder.record_takes_iff _ _ p.entries).2 ?_
  rw [reads_seq, reads_map, reads_required p.ascending, reads_required p.ascending]
  exact ⟨text_takes_of_validate h hd "casefile_id" (by decide),
    text_takes_of_validate h hd "session_id" (by decide)⟩

theorem createSession_takes_iff (h : validate (Payload.parameters CreateSession) raw = .ok p) :
    (Payload.decoder : Decoder CreateSession).Takes p.toJson ↔ p.Readable := by
  have hd : Distinct (Payload.parameters CreateSession) := by decide
  refine iff_of_true ?_ (readable_of_validate h (by decide) (by decide))
  refine (Decoder.record_takes_iff _ _ p.entries).2 ?_
  rw [reads_map, reads_optional p.ascending]
  exact optionalText_takes_of_validate h hd "title" (by decide)

theorem chat_takes_iff (h : validate (Payload.parameters Chat) raw = .ok p) :
    (Payload.decoder : Decoder Chat).Takes p.toJson ↔ p.Readable := by
  have hd : Distinct (Payload.parameters Chat) := by decide
  refine iff_of_true ?_ (readable_of_validate h (by decide) (by decide))
  refine (Decoder.record_takes_iff _ _ p.entries).2 ?_
  rw [reads_map, reads_required p.ascending]
  exact text_takes_of_validate h hd "message" (by decide)

theorem createCasefileWithSession_takes_iff
    (h : validate (Payload.parameters CreateCasefileWithSession) raw = .ok p) :
    (Payload.decoder : Decoder CreateCasefileWithSession).Takes p.toJson ↔ p.Readable := by
  have hd : Distinct (Payload.parameters CreateCasefileWithSession) := by decide
  have htitle := text_takes_of_validate h hd "title" (by decide)
  have hdescription := optionalText_takes_of_validate h hd "description" (by decide)
  have hsessionTitle := optionalText_takes_of_validate h hd "session_title" (by decide)
  have hchoice := bool_takes_iff_of_validate h hd "auto_start_session" (by decide)
  refine (Decoder.record_takes_iff _ _ p.entries).trans ?_
  rw [reads_seq, reads_seq, reads_seq, reads_seq, reads_map, reads_required p.ascending,
    reads_optional p.ascending, reads_withDefault p.ascending, reads_withDefault p.ascending,
    reads_optional p.ascending]
  constructor
  · rintro ⟨⟨⟨-, htags⟩, hbool⟩, -⟩
    exact ⟨p.tags_takes_iff.1 htags, hchoice.1 hbool⟩
  · intro hp
    exact ⟨⟨⟨⟨htitle, hdescription⟩, p.tags_takes_iff.2 hp.tags⟩, hchoice.2 hp.choice⟩,
      hsessionTitle⟩

end CasefileHub
