import CasefileHub.Proofs.Dispatch.Accounting
import CasefileHub.Proofs.Renaming.Calls
/-!
# Dispatches up to renaming

A request is renamed to another if both ask for the same with renamed records. The hub over the store
accepts both or none, and on matching stores it responds with the same up to renaming: the operation
comes to the same, and the hooks record the same but for the session and the times.

    r.Renamed ρ r' → accepted as well, with a call that is renamed            (exists_call_of_renamed)
    … → the responses are renamed, and the stores match afterwards                  (perform_renamed)
-/

namespace CasefileHub

variable {ρ : Renaming}

/-! ## Requests -/

/-- Payloads of one operation, where the one names what the other names under the renaming. The
payloads of two operations name records, and the others are the same. -/
inductive PayloadRenamed (ρ : Renaming) (operation : String) (v v' : Json) : Prop
  | read {id : String} (hop : operation = OperationName.getCasefile)
      (h : Payload.decoder v = .ok (GetCasefile.mk id))
      (h' : Payload.decoder v' = .ok (GetCasefile.mk (ρ.casefile id)))
  | link {casefileId sessionId : String} (hop : operation = OperationName.addSession)
      (h : Payload.decoder v = .ok (AddSession.mk casefileId sessionId))
      (h' : Payload.decoder v' = .ok (AddSession.mk (ρ.casefile casefileId) (ρ.session sessionId)))
  | same (hget : operation ≠ OperationName.getCasefile) (hadd : operation ≠ OperationName.addSession)
      (h : v' = v)

namespace Request

/-- The same request up to renaming: its id is the same, or both ids were given to it, the records
that it names are renamed, and whatever else counts is the same. -/
structure Renamed (ρ : Renaming) (r r' : Request Json) : Prop where
  requestId : r'.requestId = r.requestId ∨
    ∃ n n', r.requestId = Identifier.request n ∧ r'.requestId = Identifier.request n'
  sessionId : r'.sessionId = r.sessionId.map ρ.session
  userId : r'.userId = r.userId
  operation : r'.operation = r.operation
  payload : PayloadRenamed ρ r.operation r.payload r'.payload
  casefile : r'.metadataCasefile? = r.metadataCasefile?.map ρ.casefile
  hooks : r'.hooks = r.hooks
  pattern : r'.policyHints.pattern = r.policyHints.pattern

end Request

/-! ## Operations -/

namespace Route

open Store (Uses CallsRenamed)

variable {r r' : Request Json} {call : Services Store → ServiceCall Store Json}

/-- A request gets a call that uses up as many numbers as another call, and is renamed. -/
def HandlesRenamed (ρ : Renaming) (route : Route Store) (r' : Request Json)
    (call : Services Store → ServiceCall Store Json) : Prop :=
  ∃ call' count, route.handler r' = .ok call' ∧ Uses (call Store.services) count ∧
    Uses (call' Store.services) count ∧
    CallsRenamed ρ count (call Store.services) (call' Store.services)

section
variable {Req Resp : Type} [Payload Req] [Payload Resp]
  {perform : Services Store → Request Req → ServiceCall Store Resp} {p p' : Req}
  {name : String} {policy : Option String}

/-- A request that is accepted has a payload that reads. -/
theorem exists_read (hok : (Route.typed name perform policy).handler r = .ok call) :
    ∃ p : Req, Payload.decoder r.payload = .ok p := by
  cases hread : (Payload.decoder : Decoder Req) r.payload with
  | ok p => exact ⟨p, rfl⟩
  | error cause =>
    have herr := (typedHandler_of_error perform hread).symm.trans hok
    cases herr

/-- A payload that names no records reads the same in a renamed request. -/
theorem exists_same_read (hok : (Route.typed name perform policy).handler r = .ok call)
    (hr : r.Renamed ρ r') (hop : r.operation = name) (hget : name ≠ OperationName.getCasefile)
    (hadd : name ≠ OperationName.addSession) :
    ∃ p : Req, Payload.decoder r.payload = .ok p ∧ Payload.decoder r'.payload = .ok p := by
  obtain ⟨p, hread⟩ := exists_read hok
  have hpayload : r'.payload = r.payload := by
    cases hr.payload with
    | read hop' _ _ => exact absurd (hop.symm.trans hop') hget
    | link hop' _ _ => exact absurd (hop.symm.trans hop') hadd
    | same _ _ h => exact h
  exact ⟨p, hread, hpayload ▸ hread⟩

theorem service_handlesRenamed (hok : (Route.typed name perform policy).handler r = .ok call)
    (hread : Payload.decoder r.payload = .ok p) (hread' : Payload.decoder r'.payload = .ok p')
    (receive : Request Req → ServiceRequest) (wrap : Resp → ServiceAnswer)
    (hserve : ∀ q, Store.services.serve (receive q) = wrap <$> perform Store.services q)
    (hwrap : ∀ a, (wrap a).toJson = Payload.toJson a)
    (hnumbers : (receive (r'.withPayload p')).numbers = (receive (r.withPayload p)).numbers)
    (hq : ∀ n n', ρ.Shifts n n' (receive (r.withPayload p)).numbers →
      Store.Corresponds ρ n n' (receive (r.withPayload p)) (receive (r'.withPayload p'))) :
    HandlesRenamed ρ (Route.typed name perform policy) r' call := by
  have hcall := (typedHandler_of_ok perform hread).symm.trans hok
  cases hcall
  refine ⟨_, (receive (r.withPayload p)).numbers, typedHandler_of_ok perform hread', ?_⟩
  simp only [map_toJson_serve hserve hwrap]
  have huses' := Store.serve_uses (receive (r'.withPayload p'))
  rw [hnumbers] at huses'
  exact ⟨Store.serve_uses _, huses', Store.serve_renamed hq⟩

end

/-- A renamed request of a built-in operation is accepted as well. -/
theorem exists_call_of_renamed {route : Route Store} (hroute : route ∈ Route.builtin)
    (hop : r.operation = route.operation) (hr : r.Renamed ρ r')
    (hok : route.handler r = .ok call) : HandlesRenamed ρ route r' call := by
  simp only [builtin, List.mem_cons, List.not_mem_nil, or_false] at hroute
  rcases hroute with rfl | rfl | rfl | rfl | rfl | rfl
  · obtain ⟨p, hread, hread'⟩ := exists_same_read hok hr hop (by decide) (by decide)
    refine service_handlesRenamed hok hread hread' .createCasefile .casefileCreated
      (fun _ => rfl) (fun _ => rfl) rfl fun n n' hshifts => ?_
    exact .createCasefile (hshifts .casefile 0 Nat.one_pos) rfl hr.userId
  · cases hr.payload with
    | read _ hread hread' =>
      exact service_handlesRenamed hok hread hread' .getCasefile .casefileRead
        (fun _ => rfl) (fun _ => rfl) rfl fun _ _ _ => .getCasefile rfl
    | link hadd _ _ => exact absurd (hop.symm.trans hadd) (by decide)
    | same hget _ _ => exact absurd hop hget
  · cases hr.payload with
    | read hget _ _ => exact absurd (hop.symm.trans hget) (by decide)
    | link _ hread hread' =>
      exact service_handlesRenamed hok hread hread' .addSession .sessionAdded
        (fun _ => rfl) (fun _ => rfl) rfl fun _ _ _ => .addSession rfl rfl
    | same _ hadd _ => exact absurd hop hadd
  · obtain ⟨p, hread, hread'⟩ := exists_same_read hok hr hop (by decide) (by decide)
    refine service_handlesRenamed hok hread hread' .createSession .sessionCreated
      (fun _ => rfl) (fun _ => rfl) rfl fun n n' hshifts => ?_
    exact .createSession (hshifts .toolSession 0 Nat.one_pos) rfl hr.userId hr.casefile
  · obtain ⟨p, hread, hread'⟩ := exists_same_read hok hr hop (by decide) (by decide)
    exact service_handlesRenamed hok hread hread' .processChat .chatReply
      (fun _ => rfl) (fun _ => rfl) rfl fun _ _ _ => .processChat rfl hr.sessionId
  · obtain ⟨p, hread, hread'⟩ := exists_same_read hok hr hop (by decide) (by decide)
    have hcall := (typedHandler_of_ok Workflow.createCasefileWithSession hread).symm.trans hok
    cases hcall
    exact ⟨_, Workflow.numbers p, typedHandler_of_ok _ hread',
      Workflow.workflow_uses (r.withPayload p), Workflow.workflow_uses (r'.withPayload p),
      @Workflow.workflow_renamed ρ (r.withPayload p) (r'.withPayload p) rfl hr.userId⟩

end Route

/-! ## Metadata -/

namespace DispatchContext

variable {c c' : DispatchContext} {resp resp' : Response}

theorem annotated_renamed
    (hevents : List.Forall₂ (Json.Renamed ρ) (c.hookEvents.map HookEvent.toJson)
      (c'.hookEvents.map HookEvent.toJson))
    (haudit : List.Forall₂ (Json.Renamed ρ) (c.auditLog.map AuditEntry.toJson)
      (c'.auditLog.map AuditEntry.toJson))
    (hskipped : c'.skippedHooks = c.skippedHooks) (hresp : resp.Renamed ρ resp') :
    (c.annotated resp).Renamed ρ (c'.annotated resp') := by
  have hempty : c'.auditLog.isEmpty = c.auditLog.isEmpty := by
    have hlength := haudit.length_eq
    rw [List.length_map, List.length_map] at hlength
    rw [Bool.eq_iff_iff, List.isEmpty_iff_length_eq_zero, List.isEmpty_iff_length_eq_zero, hlength]
  have hattached : (c.attach resp).Renamed ρ (c'.attach resp') := by
    unfold attach
    rw [hempty]
    split
    · exact hresp.annotate (.arr hevents) _
    · exact (hresp.annotate (.arr hevents) _).annotate (.arr haudit) _
  unfold annotated attachSkipped
  rw [hskipped]
  split
  · exact hattached
  · exact hattached.annotate (.same _) _

end DispatchContext

theorem forall₂_map_of_forall {α β γ : Type} {R : β → γ → Prop} {f : α → β} {g : α → γ} (l : List α)
    (h : ∀ a, R (f a) (g a)) : List.Forall₂ R (l.map f) (l.map g) := by
  rw [List.forall₂_map_left_iff, List.forall₂_map_right_iff]
  exact List.forall₂_same.2 fun a _ => h a

theorem HookEvent.toJson_renamed (hook operation : String) (stage : HookStage)
    (status : Option RequestStatus) (t t' : Timestamp) :
    (HookEvent.mk hook stage operation t status).toJson.Renamed ρ
      (HookEvent.mk hook stage operation t' status).toJson := by
  cases status with
  | none =>
    exact .ofMembers (.cons (.same _) (.cons (.same _) (.cons (.same _) (.cons (.time _ _) .nil))))
  | some status =>
    exact .ofMembers (.cons (.same _) (.cons (.same _) (.cons (.same _) (.cons (.same _)
      (.cons (.time _ _) .nil)))))

theorem AuditEntry.toJson_renamed (operation : String) (userId sessionId : Option String)
    (stage : HookStage) (status : Option RequestStatus) (t t' : Timestamp) :
    (AuditEntry.mk operation userId sessionId stage status t).toJson.Renamed ρ
      (AuditEntry.mk operation userId (sessionId.map ρ.session) stage status t').toJson := by
  have hsession := Json.renamed_ofOption (ρ := ρ) .toolSession sessionId
  cases status with
  | none =>
    exact .ofMembers (.cons (.same _) (.cons hsession (.cons (.same _) (.cons (.time _ _)
      (.cons (.same _) .nil)))))
  | some status =>
    exact .ofMembers (.cons (.same _) (.cons hsession (.cons (.same _) (.cons (.same _)
      (.cons (.time _ _) (.cons (.same _) .nil))))))

namespace Hub

variable {h : Hub Store} {r r' : Request Json} {d d' : Option Nat} {e e' e₁ e₁' : Environment Store}
  {resp resp' : Response}

/-! ## Dispatches -/

theorem hooksOf_renamed (hr : r.Renamed ρ r') : h.hooksOf r' = h.hooksOf r := by
  unfold hooksOf selectPolicy requestedPolicy
  rw [hr.pattern, hr.operation, hr.hooks]

theorem ofOutcome_renamed (hr : r.Renamed ρ r') {result result' : Except ErrorInfo Json}
    (hresult : OutcomeRenamed ρ result result') :
    (Response.ofOutcome r.requestId result).Renamed ρ (.ofOutcome r'.requestId result') := by
  have hid : (Json.str r.requestId).Renamed ρ (.str r'.requestId) := by
    rcases hr.requestId with heq | ⟨n, n', heq, heq'⟩
    · rw [heq]
      exact .same _
    · rw [heq, heq']
      exact .request n n'
  cases hresult with
  | error he => exact ⟨hid, rfl, .same _, .some he, .nil⟩
  | ok hv => exact ⟨hid, rfl, hv, .none, .nil⟩

/-- The hooks record the same but for the session and the times. -/
theorem finish_renamed (hh : h.hooks = Hook.builtin) (hr : r.Renamed ρ r') {c c' : DispatchContext}
    {now now' : Timestamp} (hc : h.Begun r now c) (hc' : h.Begun r' now' c')
    {result result' : Except ErrorInfo Json} (hresult : OutcomeRenamed ρ result result')
    (hrun : h.finish r c result d e = (some resp, e₁))
    (hrun' : h.finish r' c' result' d' e' = (some resp', e₁')) : resp.Renamed ρ resp' := by
  have hresponse := ofOutcome_renamed hr hresult
  have hknown : h.knownHooks r' = h.knownHooks r := by rw [knownHooks, knownHooks, hooksOf_renamed hr]
  have hunknown : h.unknownHooks r' = h.unknownHooks r := by
    rw [unknownHooks, unknownHooks, hooksOf_renamed hr]
  rw [finish_apply, hh, Hook.runAll_builtin] at hrun hrun'
  cases hrun
  cases hrun'
  refine DispatchContext.annotated_renamed ?_ ?_ ?_ hresponse
  · simp only [Hook.recorded, Hook.event, hc.hookEvents, hc'.hookEvents, hc.hooks, hc'.hooks,
      hc.operation, hc'.operation, hooksOf_renamed hr, hr.operation, hknown, List.map_append,
      List.map_map, Option.map_some, hresponse.status]
    exact List.rel_append (forall₂_map_of_forall _ fun name => HookEvent.toJson_renamed ..)
      (forall₂_map_of_forall _ fun name => HookEvent.toJson_renamed ..)
  · simp only [Hook.recorded, Hook.event, Hook.entry, hc.auditLog, hc'.auditLog, hc.hooks, hc'.hooks,
      hc.operation, hc'.operation, hc.userId, hc'.userId, hc.sessionId, hc'.sessionId,
      hooksOf_renamed hr, hr.operation, hr.userId, hr.sessionId, List.map_append,
      List.map_map, Option.map_some, hresponse.status]
    refine List.rel_append ?_ (forall₂_map_of_forall _ fun name => AuditEntry.toJson_renamed ..)
    split
    · exact .cons (AuditEntry.toJson_renamed ..) .nil
    · exact .nil
  · show c'.skippedHooks = c.skippedHooks
    rw [hc.skippedHooks, hc'.skippedHooks, hunknown]

section
variable {config : HubConfig} {call call' : Services Store → ServiceCall Store Json} {count : Nat}

/-- A renamed request is accepted as well. -/
theorem accept_renamed (hr : r.Renamed ρ r') (haccept : (inMemory config).accept r = .ok call) :
    ∃ call' count, (inMemory config).accept r' = .ok call' ∧
      Store.Uses (call Store.services) count ∧ Store.Uses (call' Store.services) count ∧
      Store.CallsRenamed ρ count (call Store.services) (call' Store.services) := by
  obtain ⟨route, hroute, hhandler⟩ := exists_route_of_accept haccept
  have hbuiltin := Route.mem_builtin_of_get? hroute
  have hop : r.operation = route.operation := ((inMemory config).operations.named _ _ hroute).symm
  obtain ⟨call', count, hhandler', huses, huses', hcalls⟩ :=
    Route.exists_call_of_renamed hbuiltin hop hr hhandler
  have hroute' : (inMemory config).operations.get? r'.operation = some route := by
    rw [hr.operation]
    exact hroute
  exact ⟨call', count, accept_of_handler_ok hroute' hhandler', huses, huses', hcalls⟩

/-- The stages of a request whose operation answers at once: only the operation acts. -/
theorem stages_of_run {result : Except ServiceError Json} {e₂ : Environment Store}
    (hcall : ∀ d, (call Store.services).run d e = (some result, e₂))
    (hperform : (inMemory config).perform r call d e = (some resp, e₁)) :
    e₁ = e₂ ∧ ∃ now c, (inMemory config).Begun r now c ∧
      (inMemory config).finish r c (result.mapError ServiceError.info) d e₂ = (some resp, e₁) := by
  obtain ⟨c, e₀, outcome, e₃, hbegin, houtcome, hfinish⟩ := stages_of_perform hperform
  obtain ⟨now, hc⟩ := begun_of_begin rfl hbegin
  have hsilent : (inMemory config).services.Silent := Store.services_silent
  obtain ⟨c', hbegin'⟩ := begin_silent hsilent Hook.builtin_silent r d e
  rw [hbegin] at hbegin'
  cases hbegin'
  have hrun := houtcome.symm.trans (outcome_apply (h := inMemory config) hcall r.operation d)
  cases hrun
  obtain ⟨metadata, hfinish'⟩ := finish_of_silent (h := inMemory config) Hook.builtin_silent r c
    (result.mapError ServiceError.info) d e₂
  rw [hfinish] at hfinish'
  cases hfinish'
  exact ⟨rfl, now, c, hc, hfinish⟩

/-- A request uses up the numbers of its operation. -/
theorem unused_of_perform (huses : Store.Uses (call Store.services) count)
    (hperform : (inMemory config).perform r call d e = (some resp, e₁)) :
    e₁.unused = e.unused + count := by
  obtain ⟨result, s₁, hcall⟩ := huses e
  obtain ⟨rfl, -⟩ := stages_of_run hcall hperform
  rfl

/-- On matching stores, renamed requests get renamed responses, and the stores match afterwards. -/
theorem perform_renamed (hr : r.Renamed ρ r')
    (hcalls : Store.CallsRenamed ρ count (call Store.services) (call' Store.services))
    (hperform : (inMemory config).perform r call d e = (some resp, e₁))
    (hperform' : (inMemory config).perform r' call' d' e' = (some resp', e₁'))
    (hshifts : ρ.Shifts e.unused e'.unused count) (hmatch : e.state.Matches ρ e'.state) :
    resp.Renamed ρ resp' ∧ e₁.state.Matches ρ e₁'.state := by
  obtain ⟨result, result', e₂, e₂', hcall, hcall', hresult, hmatch'⟩ := hcalls e e' hshifts hmatch
  obtain ⟨rfl, now, c, hc, hfinish⟩ := stages_of_run hcall hperform
  obtain ⟨rfl, now', c', hc', hfinish'⟩ := stages_of_run hcall' hperform'
  exact ⟨finish_renamed rfl hr hc hc' hresult hfinish hfinish', hmatch'⟩

end

end Hub

end CasefileHub
