import CasefileHub.Proofs.Json.Codec
import CasefileHub.Response
/-!
# Envelopes

Requests and responses are written as objects with every field, and read back as they were. What is
read, from an object or from an array, is *normal*: its JSON values are, and the hints have nothing
further under the name of the pattern. A normal envelope is read back from what is written of it.

    Request.decoder id v = ok r → r.Normal                            (Request.decoder_gives_normal)
    r.Normal → Request.decoder id r.toJson = ok r                     (Request.decoder_toJson)
    r.Normal → Response.decoder r.toJson = ok r                       (Response.decoder_toJson)
    (r.withPayload (toJson p)).typed Q = ok (r.withPayload p)         (ReadsBack)
-/

namespace CasefileHub

/-! ## Policy hints -/

namespace PolicyHints

/-- The further hints are normal, and none has the name of the pattern. -/
structure Normal (h : PolicyHints) : Prop where
  pattern : h.extra.get? patternKey = none
  extra : (Json.ofTable h.extra).Normal

/-- All hints, by their names. -/
def all (h : PolicyHints) : Table Json :=
  match h.pattern with
  | some p => h.extra.insert patternKey (.str p)
  | none => h.extra

theorem toJson_eq (h : PolicyHints) : h.toJson = .ofTable h.all := by
  unfold toJson all
  cases h.pattern <;> rfl

variable {h : PolicyHints}

theorem normal_empty : Normal {} := ⟨rfl, Json.normal_ofTable_empty⟩

theorem Normal.get?_all (hn : h.Normal) : h.all.get? patternKey = h.pattern.map .str := by
  unfold all
  cases h.pattern with
  | none => exact hn.pattern
  | some p =>
    show (h.extra.insert patternKey (.str p)).get? patternKey = _
    rw [Table.get?_insert, if_pos rfl]
    rfl

theorem Normal.erase_all (hn : h.Normal) : h.all.erase patternKey = h.extra := by
  refine Table.ext_get? fun m => ?_
  rw [Table.get?_erase]
  by_cases hm : m = patternKey
  · rw [if_pos hm, hm, hn.pattern]
  · rw [if_neg hm]
    unfold all
    cases h.pattern with
    | none => rfl
    | some p =>
      show (h.extra.insert patternKey (.str p)).get? m = _
      rw [Table.get?_insert, if_neg hm]

theorem Normal.toJson (hn : h.Normal) : h.toJson.Normal := by
  rw [toJson_eq]
  refine (Json.normal_obj_iff _).2 ⟨h.all.ascending, ?_⟩
  have hextra := ((Json.normal_obj_iff _).1 hn.extra).2
  unfold all
  cases h.pattern with
  | none => exact hextra
  | some p =>
    intro m hm
    rcases Entries.mem_of_mem_insert hm with rfl | hmem
    · trivial
    · exact hextra m hmem

theorem decoder_toJson (hn : h.Normal) : decoder h.toJson = .ok h := by
  have hpattern : (Fields.optional patternKey .text).Yields h.all.entries h.pattern := by
    have hget := hn.get?_all
    cases hp : h.pattern with
    | none =>
      rw [hp] at hget
      exact Fields.yields_optional_absent h.all.ascending hget
    | some p =>
      rw [hp] at hget
      exact Fields.yields_optional h.all.ascending hget rfl
  have hmembers : Decoder.members (.obj h.all.entries) = .ok h.all.entries := by
    refine Decoder.members_of_normal ?_
    have hnormal := hn.toJson
    rwa [toJson_eq] at hnormal
  rw [toJson_eq]
  show decoder (.obj h.all.entries) = _
  unfold Fields.Yields at hpattern
  simp only [decoder, hpattern, hmembers]
  show Except.ok ⟨h.pattern, (Table.ofList h.all.entries).erase patternKey⟩ = Except.ok h
  rw [Table.ofList_entries, hn.erase_all]

theorem decoder_gives_normal : decoder.Gives Normal := by
  intro v h hv
  unfold decoder at hv
  split at hv
  · rename_i ms
    split at hv
    · cases hms : Decoder.members (.obj ms) with
      | error e => rw [hms] at hv; cases hv
      | ok sorted =>
        rw [hms] at hv
        cases hv
        have hnormal := Decoder.members_gives_normal _ sorted hms
        have hsorted := (Json.normal_obj_iff sorted).1 hnormal
        have herased : ((Table.ofList sorted).erase patternKey).get? patternKey = none := by
          rw [Table.get?_erase, if_pos rfl]
        refine ⟨herased, (Json.normal_obj_iff _).2 ⟨Table.ascending _, fun m hm => ?_⟩⟩
        refine hsorted.2 m ?_
        rw [← Entries.ofList_of_ascending hsorted.1]
        exact (Entries.erase_sublist patternKey _).mem hm
    · cases hv
  · cases hv

end PolicyHints

/-! ## Requests -/

namespace Request

variable {r : Request Json}

/-- The values that a request carries are normal. -/
structure Normal (r : Request Json) : Prop where
  payload : r.payload.Normal
  metadata : (Json.ofTable r.metadata).Normal
  policyHints : r.policyHints.Normal
  routeDirectives : (Json.ofTable r.routeDirectives).Normal

/-- The names of the members of a written request. -/
def memberNames : List String := ["context_requirements", "hooks", "metadata", "operation",
  "payload", "policy_hints", "request_id", "route_directives", "session_id", "user_id"]

theorem memberNames_ascending : memberNames.Pairwise (· < ·) := by decide

/-- A normal request is read back, whatever id would be given to one without. -/
theorem decoder_toJson (hn : r.Normal) (freshId : String) : decoder freshId r.toJson = .ok r := by
  obtain ⟨requestId, sessionId, userId, operation, payload, metadata, requirements, hooks, hints,
    directives⟩ := r
  obtain ⟨hpayload, hmetadata, hhints, hdirectives⟩ := hn
  refine Decoder.record_of_names memberNames rfl memberNames_ascending fun hms => ?_
  refine .seq ?_ (Fields.yields_withDefault hms rfl (Decoder.table_ofTable hdirectives))
  refine .seq ?_ (Fields.yields_withDefault hms rfl (PolicyHints.decoder_toJson hhints))
  refine .seq ?_ (Fields.yields_withDefault hms rfl (Decoder.list_text hooks))
  refine .seq ?_ (Fields.yields_withDefault hms rfl (Decoder.list_text requirements))
  refine .seq ?_ (Fields.yields_withDefault hms rfl (Decoder.table_ofTable hmetadata))
  refine .seq ?_ (Fields.yields_required hms rfl (Decoder.json_of_normal hpayload))
  refine .seq ?_ (Fields.yields_required hms rfl rfl)
  refine .seq ?_ (Fields.yields_optional hms rfl (Decoder.option_text userId))
  refine .seq ?_ (Fields.yields_optional hms rfl (Decoder.option_text sessionId))
  exact .map mk (Fields.yields_withDefault hms rfl rfl)

theorem decoder_gives_normal (freshId : String) : (decoder freshId).Gives Normal := by
  refine Decoder.gives_record ?_
  refine .seq ?_ (Fields.gives_withDefault _ Decoder.table_gives_normal Json.normal_ofTable_empty)
  refine .seq ?_
    (Fields.gives_withDefault _ PolicyHints.decoder_gives_normal PolicyHints.normal_empty)
  refine .seq ?_ (Fields.gives_any _)
  refine .seq ?_ (Fields.gives_any _)
  refine .seq ?_ (Fields.gives_withDefault _ Decoder.table_gives_normal Json.normal_ofTable_empty)
  refine .seq ?_ (Fields.gives_required _ Decoder.json_gives_normal)
  refine .seq ?_ (Fields.gives_any _)
  refine .seq ?_ (Fields.gives_any _)
  refine .seq ?_ (Fields.gives_any _)
  refine .map (Fields.gives_any _) ?_
  intro _ _ _ _ _ _ _ _ _ hpayload _ hmetadata _ _ _ _ _ hhints _ hdirectives
  exact ⟨hpayload, hmetadata, hhints, hdirectives⟩

/-- A normal request is written as a normal value. -/
theorem Normal.toJson (hn : r.Normal) : r.toJson.Normal := by
  refine (Json.normal_obj_iff _).2
    ⟨Entries.ascending_of_names memberNames rfl memberNames_ascending, ?_⟩
  simp only [List.forall_mem_cons, List.not_mem_nil, false_implies, implies_true, and_true]
  exact ⟨Json.normal_strings _, Json.normal_strings _, hn.metadata, trivial, hn.payload,
    hn.policyHints.toJson, trivial, hn.routeDirectives, Json.normal_ofOption_str _,
    Json.normal_ofOption_str _⟩

end Request

/-! ## Responses -/

namespace Response

variable {r : Response}

/-- The values that a response carries are normal. -/
structure Normal (r : Response) : Prop where
  payload : r.payload.Normal
  metadata : (Json.ofTable r.metadata).Normal

/-- The names of the members of a written response with an error. -/
def memberNames : List String := ["error", "metadata", "payload", "request_id", "status"]

theorem memberNames_ascending : memberNames.Pairwise (· < ·) := by decide

/-- Without an error the first is left out. -/
theorem tail_ascending : memberNames.tail.Pairwise (· < ·) := memberNames_ascending.tail

theorem status_decoder (s : RequestStatus) : RequestStatus.decoder s.toJson = .ok s := by
  cases s <;> rfl

theorem error_decoder (e : ErrorInfo) : ErrorInfo.decoder e.toJson = .ok e := by
  obtain ⟨kind, message⟩ := e
  refine Decoder.record_of_names ["kind", "message"] rfl (by decide) fun hms => ?_
  refine .seq ?_ (Fields.yields_required hms rfl rfl)
  exact .map ErrorInfo.mk (Fields.yields_required hms rfl rfl)

/-- A normal response is read back, with an error or without. -/
theorem decoder_toJson (hn : r.Normal) : decoder r.toJson = .ok r := by
  obtain ⟨requestId, status, payload, error, metadata⟩ := r
  obtain ⟨hpayload, hmetadata⟩ := hn
  cases error with
  | none =>
    refine Decoder.record_of_names memberNames.tail rfl tail_ascending fun hms => ?_
    refine .seq ?_ (Fields.yields_withDefault hms rfl (Decoder.table_ofTable hmetadata))
    refine .seq ?_ (Fields.yields_optional_absent hms rfl)
    refine .seq ?_ (Fields.yields_required hms rfl (Decoder.json_of_normal hpayload))
    refine .seq ?_ (Fields.yields_required hms rfl (status_decoder status))
    exact .map mk (Fields.yields_required hms rfl rfl)
  | some e =>
    have herror : ErrorInfo.decoder.option e.toJson = .ok (some e) :=
      Decoder.option_ofOption (o := some e) (fun e _ => error_decoder e) (by simp [ErrorInfo.toJson])
    refine Decoder.record_of_names memberNames rfl memberNames_ascending fun hms => ?_
    refine .seq ?_ (Fields.yields_withDefault hms rfl (Decoder.table_ofTable hmetadata))
    refine .seq ?_ (Fields.yields_optional hms rfl herror)
    refine .seq ?_ (Fields.yields_required hms rfl (Decoder.json_of_normal hpayload))
    refine .seq ?_ (Fields.yields_required hms rfl (status_decoder status))
    exact .map mk (Fields.yields_required hms rfl rfl)

theorem decoder_gives_normal : decoder.Gives Normal := by
  refine Decoder.gives_record ?_
  refine .seq ?_ (Fields.gives_withDefault _ Decoder.table_gives_normal Json.normal_ofTable_empty)
  refine .seq ?_ (Fields.gives_any _)
  refine .seq ?_ (Fields.gives_required _ Decoder.json_gives_normal)
  refine .seq ?_ (Fields.gives_any _)
  refine .map (Fields.gives_any _) ?_
  intro _ _ _ _ _ hpayload _ _ _ hmetadata
  exact ⟨hpayload, hmetadata⟩

/-- A normal response is written as a normal value. -/
theorem Normal.toJson (hn : r.Normal) : r.toJson.Normal := by
  obtain ⟨requestId, status, payload, error, metadata⟩ := r
  obtain ⟨hpayload, hmetadata⟩ := hn
  cases error with
  | none =>
    refine (Json.normal_obj_iff _).2
      ⟨Entries.ascending_of_names memberNames.tail rfl tail_ascending, ?_⟩
    simp only [Json.memberOf, List.nil_append, List.forall_mem_cons, List.not_mem_nil, false_implies,
      implies_true, and_true]
    exact ⟨hmetadata, hpayload, trivial, trivial⟩
  | some e =>
    have herror : e.toJson.Normal := by
      refine (Json.normal_obj_iff _).2
        ⟨Entries.ascending_of_names ["kind", "message"] rfl (by decide), ?_⟩
      simp [Json.Normal]
    refine (Json.normal_obj_iff _).2
      ⟨Entries.ascending_of_names memberNames rfl memberNames_ascending, ?_⟩
    simp only [Json.memberOf, List.cons_append, List.nil_append, List.forall_mem_cons,
      List.not_mem_nil, false_implies, implies_true, and_true]
    exact ⟨herror, hmetadata, hpayload, trivial, trivial⟩

end Response

/-! ## Typed payloads -/

namespace Payload

/-- A payload is read back out of any envelope that carries what is written of it, and everything
else in the envelope stays. -/
def ReadsBack (Q : Type) [Payload Q] : Prop :=
  ∀ (r : Request Json) (p : Q), (r.withPayload (toJson p)).typed Q = .ok (r.withPayload p)

theorem readsBack_of_decoder {Q : Type} [Payload Q]
    (h : ∀ p : Q, Payload.decoder (toJson p) = .ok p) : ReadsBack Q := by
  intro r p
  show (r.withPayload (toJson p)).withPayload <$> Payload.decoder (toJson p) = _
  rw [h p]
  rfl

theorem createCasefile_readsBack : ReadsBack CreateCasefile := by
  refine readsBack_of_decoder fun ⟨title, description, tags⟩ => ?_
  refine Decoder.record_of_names ["description", "tags", "title"] rfl (by decide) fun hms => ?_
  refine .seq ?_ (Fields.yields_withDefault hms rfl (Decoder.list_text tags))
  refine .seq ?_ (Fields.yields_optional hms rfl (Decoder.option_text description))
  exact .map CreateCasefile.mk (Fields.yields_required hms rfl rfl)

theorem getCasefile_readsBack : ReadsBack GetCasefile := by
  refine readsBack_of_decoder fun ⟨casefileId⟩ => ?_
  refine Decoder.record_of_names ["casefile_id"] rfl (by decide) fun hms => ?_
  exact .map GetCasefile.mk (Fields.yields_required hms rfl rfl)

theorem addSession_readsBack : ReadsBack AddSession := by
  refine readsBack_of_decoder fun ⟨casefileId, sessionId⟩ => ?_
  refine Decoder.record_of_names ["casefile_id", "session_id"] rfl (by decide) fun hms => ?_
  refine .seq ?_ (Fields.yields_required hms rfl rfl)
  exact .map AddSession.mk (Fields.yields_required hms rfl rfl)

theorem createSession_readsBack : ReadsBack CreateSession := by
  refine readsBack_of_decoder fun ⟨title⟩ => ?_
  refine Decoder.record_of_names ["title"] rfl (by decide) fun hms => ?_
  exact .map CreateSession.mk (Fields.yields_optional hms rfl (Decoder.option_text title))

theorem chat_readsBack : ReadsBack Chat := by
  refine readsBack_of_decoder fun ⟨message⟩ => ?_
  refine Decoder.record_of_names ["message"] rfl (by decide) fun hms => ?_
  exact .map Chat.mk (Fields.yields_required hms rfl rfl)

theorem createCasefileWithSession_readsBack : ReadsBack CreateCasefileWithSession := by
  refine readsBack_of_decoder fun ⟨title, description, tags, autoStart, sessionTitle⟩ => ?_
  refine Decoder.record_of_names ["auto_start_session", "description", "session_title", "tags",
    "title"] rfl (by decide) fun hms => ?_
  refine .seq ?_ (Fields.yields_optional hms rfl (Decoder.option_text sessionTitle))
  refine .seq ?_ (Fields.yields_withDefault hms rfl rfl)
  refine .seq ?_ (Fields.yields_withDefault hms rfl (Decoder.list_text tags))
  refine .seq ?_ (Fields.yields_optional hms rfl (Decoder.option_text description))
  exact .map CreateCasefileWithSession.mk (Fields.yields_required hms rfl rfl)

end Payload

/-! ## The round trip -/

/-- **Envelopes survive a round trip.** A request that is read, in whatever form, is normal, and any
normal request is written as a normal value that reads as the same request and is written again as
the same value. So is a response. And of each request model every payload is read back out of any
envelope, which stays the same otherwise. -/
theorem envelopes_read_back :
    (∀ freshId v r, Request.decoder freshId v = .ok r → r.Normal) ∧
    (∀ r : Request Json, r.Normal → r.toJson.Normal ∧ ∀ freshId,
      Request.decoder freshId r.toJson = .ok r ∧
      Request.toJson <$> Request.decoder freshId r.toJson = .ok r.toJson) ∧
    (∀ v r, Response.decoder v = .ok r → r.Normal) ∧
    (∀ r : Response, r.Normal → r.toJson.Normal ∧
      Response.decoder r.toJson = .ok r ∧
      Response.toJson <$> Response.decoder r.toJson = .ok r.toJson) ∧
    (Payload.ReadsBack CreateCasefile ∧ Payload.ReadsBack GetCasefile ∧
      Payload.ReadsBack AddSession ∧ Payload.ReadsBack CreateSession ∧
      Payload.ReadsBack Chat ∧ Payload.ReadsBack CreateCasefileWithSession) := by
  refine ⟨Request.decoder_gives_normal, fun r hn => ⟨hn.toJson, fun freshId => ?_⟩,
    Response.decoder_gives_normal, fun r hn => ⟨hn.toJson, ?_⟩, ?_⟩
  · have hread := Request.decoder_toJson hn freshId
    exact ⟨hread, by rw [hread]; rfl⟩
  · have hread := Response.decoder_toJson hn
    exact ⟨hread, by rw [hread]; rfl⟩
  · exact ⟨Payload.createCasefile_readsBack, Payload.getCasefile_readsBack,
      Payload.addSession_readsBack, Payload.createSession_readsBack, Payload.chat_readsBack,
      Payload.createCasefileWithSession_readsBack⟩

/-- A request as an array, with a hint beside the pattern and without its last field. -/
def listed : Json :=
  .arr [.str "r1", .null, .str "ann", .str "casefile.get", .obj [("casefile_id", .str "cf_1")],
    .obj [("tier", .nat 2), ("stage", .null)], .arr [], .arr [.str "trace"],
    .obj [("tier", .nat 1), ("pattern", .str "standard")]]

def listedRequest : Request Json where
  requestId := "r1"
  userId := some "ann"
  operation := "casefile.get"
  payload := .obj [("casefile_id", .str "cf_1")]
  metadata := .ofList [("stage", .null), ("tier", .nat 2)]
  hooks := ["trace"]
  policyHints := ⟨some "standard", .ofList [("tier", .nat 1)]⟩

/-- What is written of it is an object with every field, and reads the same. -/
theorem listed_reads_back :
    Request.decoder "fresh" listed = .ok listedRequest ∧
    Request.decoder "other" listedRequest.toJson = .ok listedRequest :=
  have hread : Request.decoder "fresh" listed = .ok listedRequest := rfl
  ⟨hread, ((envelopes_read_back.2.1 _ (envelopes_read_back.1 _ _ _ hread)).2 "other").1⟩

end CasefileHub
