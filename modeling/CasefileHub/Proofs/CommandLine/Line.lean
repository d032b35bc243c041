import CasefileHub.CommandLine
import CasefileHub.Proofs.Dispatch.Promptness
import CasefileHub.Proofs.Json.Decode
import CasefileHub.Proofs.Json.Members
/-!
# What a line is answered

A line that is no request is refused, and so is a request that the hub does not accept; then nothing
is done, and one number has been used up. Every other line is answered with the response of its
request. Which of the three it was shows in the answer, and so does the id of the request:

    readAsWritten line = ok v → the line is the request that v is   (readRequest_of_readAsWritten)
    (answer h line).run e = (some a, e') ↔ Answered h line e a e'              (run_answer_iff)
    the line is a request → the answer has its id, which is that in the line
                                                      (Answered.requestId, requestId_of_member)
    refuses a ↔ the line is no request, or not accepted                        (refuses_iff)
    refuses a → e' = { e with unused := e.unused + 1 }                         (eq_of_refuses)
    the hub over the store answers every line                                  (exists_answer)
-/

namespace CasefileHub

namespace CommandLine

variable {h : Hub Store} {line : String} {e e' : Environment Store} {a : Json} {r : Request Json}

/-- The kinds of the errors that refuse a line. -/
def refusalKinds : List String := ["parse_error", "protocol_error", "validation_error"]

/-- The kind of the error in an answer. -/
def errorKind? (answer : Json) : Option String :=
  ((answer.member? "error").bind (Json.member? "kind")).bind Json.text?

/-- The answer is one of the errors that refuse a line. -/
def refuses (answer : Json) : Bool := refusalKinds.any (errorKind? answer == some ·)

/-- What a line reads as, if it has no id and gets the next one. -/
def readRequest (e : Environment Store) (line : String) : Except LineError (Request Json) :=
  parseRequest (Identifier.request e.unused) line

/-- The answer to a line and what it leaves behind: the line is no request, its request is not
accepted, or it is performed. -/
inductive Answered (h : Hub Store) (line : String) (e : Environment Store) :
    Json → Environment Store → Prop
  | unread {err : LineError} (hline : readRequest e line = .error err) :
      Answered h line e (refusal none "parse_error" err.message) { e with unused := e.unused + 1 }
  | refused {r : Request Json} {err : HubError} (hline : readRequest e line = .ok r)
      (haccept : h.accept r = .error err) :
      Answered h line e (refusal (some r.requestId) err.kind err.message)
        { e with unused := e.unused + 1 }
  | performed {r : Request Json} {call : Services Store → ServiceCall Store Json}
      {resp : Response} {e' : Environment Store} (hline : readRequest e line = .ok r)
      (haccept : h.accept r = .ok call)
      (hperform : h.perform r call none { e with unused := e.unused + 1 } = (some resp, e')) :
      Answered h line e resp.toJson e'

/-! ## What a line reads as -/

theorem decoder_eq_of_alike (freshId : String) {v v' : Json}
    (h : v.Alike Request.fieldNames.contains v') :
    Request.decoder freshId v = Request.decoder freshId v' := by
  refine Decoder.record_eq_of_alike ?_ _ h
  iterate 5 refine .seq ?_ (Fields.asksOnly_withDefault rfl _ _)
  iterate 2 refine .seq ?_ (Fields.asksOnly_required rfl _)
  iterate 2 refine .seq ?_ (Fields.asksOnly_withDefault rfl _ _)
  exact .map (Fields.asksOnly_withDefault rfl _ _) _

/-- A line that reads as a value is the request that the value is, although members that a request
has no field for have only been skimmed. -/
theorem readRequest_of_readAsWritten {v : Json} (h : Json.readAsWritten line = .ok v) :
    readRequest e line =
      (Request.decoder (Identifier.request e.unused) v).mapError .undecodable := by
  obtain ⟨v', hv', halike⟩ :=
    Json.exists_readMembers_of_readAsWritten Request.fieldNames.contains h
  unfold readRequest parseRequest
  rw [decoder_eq_of_alike _ halike]
  simp only [hv']

/-! ## One line -/

theorem run_answer_of_error {err : LineError} (hline : readRequest e line = .error err) :
    (answer h line).run e =
      (some (refusal none "parse_error" err.message), { e with unused := e.unused + 1 }) := by
  unfold readRequest at hline
  unfold answer Timed.run
  rw [Timed.bind_apply, Timed.fresh_apply]
  simp only [hline]
  rfl

/-- A line that is a request is answered with what its dispatch comes to. -/
theorem run_answer_of_ok (hline : readRequest e line = .ok r) :
    (answer h line).run e =
      match h.dispatch r none { e with unused := e.unused + 1 } with
      | (some (.ok resp), e') => (some resp.toJson, e')
      | (some (.error err), e') => (some (refusal (some r.requestId) err.kind err.message), e')
      | (none, e') => (none, e') := by
  unfold readRequest at hline
  unfold answer Timed.run
  rw [Timed.bind_apply, Timed.fresh_apply]
  simp only [hline]
  rw [Timed.bind_apply]
  rcases h.dispatch r none { e with unused := e.unused + 1 } with ⟨_ | _ | _, _⟩ <;> rfl

theorem run_answer_of_accept (hline : readRequest e line = .ok r)
    {call : Services Store → ServiceCall Store Json} (haccept : h.accept r = .ok call) :
    (answer h line).run e =
      (Response.toJson <$> h.perform r call) none { e with unused := e.unused + 1 } := by
  rw [run_answer_of_ok hline, Hub.dispatch_of_accept haccept, Timed.map_apply, Timed.map_apply]
  rcases h.perform r call none { e with unused := e.unused + 1 } with ⟨_ | _, _⟩ <;> rfl

/-- The three ways in which a line is answered. -/
theorem run_answer_iff : (answer h line).run e = (some a, e') ↔ Answered h line e a e' := by
  constructor
  · intro hrun
    cases hline : readRequest e line with
    | error err =>
      rw [run_answer_of_error hline] at hrun
      cases hrun
      exact .unread hline
    | ok r =>
      cases haccept : h.accept r with
      | error err =>
        rw [run_answer_of_ok hline, Hub.dispatch_of_error haccept] at hrun
        cases hrun
        exact .refused hline haccept
      | ok call =>
        rw [run_answer_of_accept hline haccept] at hrun
        obtain ⟨resp, hperform, rfl⟩ := Timed.exists_of_map_some hrun
        exact .performed hline haccept hperform
  · intro hanswered
    cases hanswered with
    | unread hline => exact run_answer_of_error hline
    | refused hline haccept => rw [run_answer_of_ok hline, Hub.dispatch_of_error haccept]; rfl
    | performed hline haccept hperform =>
      rw [run_answer_of_accept hline haccept, Timed.map_apply, hperform]

/-! ## What the answer shows -/

/-- The id of the request is in the answer, whether it is refused or performed. -/
theorem Answered.requestId (ha : Answered h line e a e') (hline : readRequest e line = .ok r) :
    a.member? "request_id" = some (.str r.requestId) := by
  cases ha with
  | unread herr =>
    rw [hline] at herr
    cases herr
  | refused hok _ =>
    rw [hline] at hok
    cases hok
    rfl
  | performed hok _ hperform =>
    rw [hline] at hok
    cases hok
    obtain ⟨c, e₁, -, hsettles⟩ := Hub.settles_of_perform hperform
    cases hsettles <;> rfl

/-- A request has the id that is in its line. -/
theorem requestId_of_member (hline : readRequest e line = .ok r) {v id : Json}
    (hv : Json.readMembers Request.fieldNames.contains line = .ok v)
    (hid : v.member? "request_id" = some id) : id = .str r.requestId := by
  have hread : Request.decoder (Identifier.request e.unused) v = .ok r := by
    unfold readRequest parseRequest at hline
    simp only [hv] at hline
    cases hdecoded : Request.decoder (Identifier.request e.unused) v with
    | error err => simp [hdecoded, Except.mapError] at hline
    | ok r' =>
      rw [hdecoded] at hline
      cases hline
      rfl
  cases v with
  | obj ms =>
    -- the id is the first of the fields, and the other nine come after it
    have htext : Decoder.text id = .ok r.requestId := by
      refine Fields.Makes.record (P := fun r => Decoder.text id = .ok r.requestId) ?_ hread
      iterate 9 refine Fields.Makes.seq ?_ (Fields.makes_any _ _)
      refine (Fields.makes_withDefault hid _ _).map fun requestId hrequestId => ?_
      intros
      exact hrequestId
    obtain ⟨s, rfl⟩ := (Decoder.text_takes_iff id).1 ⟨_, htext⟩
    cases htext
    rfl
  | _ => cases hid

/-- Without a request there is no id. -/
theorem Answered.requestId_of_error (ha : Answered h line e a e') {err : LineError}
    (hline : readRequest e line = .error err) : a.member? "request_id" = some .null := by
  cases ha with
  | unread _ => rfl
  | refused hok _ =>
    rw [hline] at hok
    cases hok
  | performed hok _ _ =>
    rw [hline] at hok
    cases hok

theorem kind_of_accept_error {err : HubError} (haccept : h.accept r = .error err) :
    err.kind = "protocol_error" ∨ err.kind = "validation_error" := by
  unfold Hub.accept at haccept
  split at haccept
  · cases haccept
    exact .inl rfl
  · split at haccept
    · cases haccept
      exact .inr rfl
    · cases haccept

theorem kind_not_mem_refusalKinds (err : ServiceError) : err.kind ∉ refusalKinds := by
  cases err <;> simp [ServiceError.kind, refusalKinds]

/-- A failed response has an error of another kind, and a completed one none. -/
theorem not_refuses_of_settles {call : ServiceCall Store Json} {resp : Response}
    (hs : h.Settles r call e resp) : refuses resp.toJson = false := by
  have hother {kind message : String} {resp : Response} (herror : resp.error = some ⟨kind, message⟩)
      (hkind : kind ∉ refusalKinds) : refuses resp.toJson = false := by
    have hshown : errorKind? resp.toJson = some kind := by
      unfold errorKind? Response.toJson
      rw [herror]
      rfl
    unfold refuses
    rw [hshown, List.any_eq_false]
    intro other hmem heq
    exact hkind (Option.some.inj (eq_of_beq heq) ▸ hmem)
  cases hs with
  | completed _ => rfl
  | @failed _ err _ _ _ => exact hother rfl (kind_not_mem_refusalKinds err)
  | timedOut _ _ => exact hother rfl (by decide)

theorem not_refuses_of_perform {call : Services Store → ServiceCall Store Json} {resp : Response}
    (hperform : h.perform r call none e = (some resp, e')) : refuses resp.toJson = false := by
  obtain ⟨c, e₁, -, hsettles⟩ := Hub.settles_of_perform hperform
  exact not_refuses_of_settles hsettles

/-- Exactly those lines are refused that are no request, or one that the hub does not accept. -/
theorem Answered.refuses_iff (ha : Answered h line e a e') :
    refuses a = true ↔ ∀ r call, readRequest e line = .ok r → h.accept r ≠ .ok call := by
  cases ha with
  | @unread err hline =>
    refine iff_of_true rfl fun r call hok => ?_
    rw [hline] at hok
    cases hok
  | @refused r err hline haccept =>
    refine iff_of_true ?_ fun r call hok => ?_
    · rcases kind_of_accept_error haccept with hkind | hkind <;> rw [hkind] <;> rfl
    · rw [hline] at hok
      cases hok
      rw [haccept]
      exact fun hcall => by cases hcall
  | performed hline haccept hperform =>
    refine iff_of_false ?_ fun hnone => hnone _ _ hline haccept
    rw [not_refuses_of_perform hperform]
    exact Bool.false_ne_true

/-- A line that is not refused is a request, and the hub accepts it. -/
theorem Answered.exists_request (ha : Answered h line e a e') (hkept : refuses a = false) :
    ∃ r call, readRequest e line = .ok r ∧ h.accept r = .ok call := by
  by_contra hnone
  have hrefused : refuses a = true :=
    ha.refuses_iff.2 fun r call hline haccept => hnone ⟨r, call, hline, haccept⟩
  rw [hkept] at hrefused
  cases hrefused

/-- An accepted request is answered with the response to it. -/
theorem Answered.exists_response (ha : Answered h line e a e')
    (hline : readRequest e line = .ok r) {call : Services Store → ServiceCall Store Json}
    (haccept : h.accept r = .ok call) :
    ∃ resp, h.perform r call none { e with unused := e.unused + 1 } = (some resp, e') ∧
      a = resp.toJson := by
  cases ha with
  | unread herr =>
    rw [hline] at herr
    cases herr
  | refused hok herr =>
    rw [hline] at hok
    cases hok
    rw [haccept] at herr
    cases herr
  | @performed _ _ resp _ hok hcall hperform =>
    rw [hline] at hok
    cases hok
    rw [haccept] at hcall
    cases hcall
    exact ⟨resp, hperform, rfl⟩

/-- A line that is refused uses up one number, and does nothing else. -/
theorem Answered.eq_of_refuses (ha : Answered h line e a e') (hrefused : refuses a = true) :
    e' = { e with unused := e.unused + 1 } := by
  cases ha with
  | unread _ => rfl
  | refused _ _ => rfl
  | performed _ _ hperform =>
    rw [not_refuses_of_perform hperform] at hrefused
    cases hrefused

/-! ## Every line is answered -/

/-- The hub over the store performs every request that it accepts. -/
theorem exists_perform {config : HubConfig} {call : Services Store → ServiceCall Store Json}
    (haccept : (Hub.inMemory config).accept r = .ok call) (d : Option Nat) (e : Environment Store) :
    ∃ resp e', (Hub.inMemory config).perform r call d e = (some resp, e') := by
  obtain ⟨route, hroute, hhandler⟩ := Hub.exists_route_of_accept haccept
  have hsteady := Route.builtin_steady (Route.mem_builtin_of_get? hroute)
  obtain ⟨result, e', hrun⟩ := (hsteady.clean hhandler).prompt e
  have hsilent : (Hub.inMemory config).services.Silent := Store.services_silent
  have houtcome := Hub.outcome_apply (h := Hub.inMemory config) hrun r.operation d
  obtain ⟨metadata, hperform⟩ :=
    (Hub.perform_of_silent hsilent Hook.builtin_silent r call d e).2 _ e' houtcome
  exact ⟨_, e', hperform⟩

/-- The hub over the store answers every line. -/
theorem exists_answer (config : HubConfig) (line : String) (e : Environment Store) :
    ∃ a e', Answered (Hub.inMemory config) line e a e' := by
  cases hline : readRequest e line with
  | error err => exact ⟨_, _, .unread hline⟩
  | ok r =>
    cases haccept : (Hub.inMemory config).accept r with
    | error err => exact ⟨_, _, .refused hline haccept⟩
    | ok call =>
      obtain ⟨resp, e', hperform⟩ := exists_perform haccept none { e with unused := e.unused + 1 }
      exact ⟨_, _, .performed hline haccept hperform⟩

end CommandLine

end CasefileHub
