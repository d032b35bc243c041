import CasefileHub.Proofs.Dispatch.Promptness
/-!
# The composite operation and its parts

A request for a casefile with a session in it does what three requests do: for the casefile, for the
session in that casefile, and for the link between both, where the later ones name what the earlier
ones were answered. Between these time may pass and numbers may be used up. The stores match under a
renaming of what is new. Without a session, the first of the three is enough:

    the parts complete, one after the other → their effects are composed   (composed_of_separately)
    the composite request completes → its store matches that of the parts  (composite_refines_parts)
-/

namespace CasefileHub

/-- Time passes, and numbers may be used up. -/
def Environment.Pauses (e e' : Environment Store) : Prop :=
  e'.state = e.state ∧ e.unused ≤ e'.unused

/-- Nothing is new but a casefile, and a session if there is one, which the casefile lists. -/
structure Store.Gains (s s' : Store) (casefileId : String) (sessionId : Option String) : Prop where
  casefile_new : s.casefile? casefileId = none
  session_new : ∀ id, sessionId = some id → s.session? id = none
  listed : ∃ c, s'.casefile? casefileId = some c ∧ c.sessionIds = sessionId.toList
  casefiles : ∀ id, id ≠ casefileId → s'.casefile? id = s.casefile? id
  sessions : ∀ id, sessionId ≠ some id → s'.session? id = s.session? id

namespace Workflow

variable {p : CreateCasefileWithSession} {user : Option String} {s s' : Store} {k m : Nat}

theorem Created.gains (h : Created p user s k s') (hfresh : s.Fresh k) :
    s.Gains s' (Identifier.casefile k) none := by
  obtain ⟨c, rfl, hempty⟩ := h.store_eq
  refine ⟨hfresh.casefile?_eq_none, fun id hid => (by cases hid), ⟨c, by simp, hempty⟩, ?_, ?_⟩
  · intro id hid
    rw [Store.casefile?_putCasefile, if_neg hid]
  · intro id _
    rfl

theorem Composed.gains (h : Composed p user s k m s') (hfresh : s.Fresh k)
    (hfreshSession : s.Fresh m) :
    s.Gains s' (Identifier.casefile k) (some (Identifier.session m)) := by
  obtain ⟨hlisted, hcasefiles, hsessions⟩ := h.records
  refine ⟨hfresh.casefile?_eq_none, fun id hid => ?_, hlisted, hcasefiles, fun id hid => ?_⟩
  · cases hid
    exact hfreshSession.session?_eq_none
  · exact hsessions id fun heq => hid (by rw [heq])

end Workflow

/-- Requests for the parts of a composite request, for the same user. -/
structure PartRequests (p : CreateCasefileWithSession) (user : Option String) where
  create : Request Json
  start : (casefileId : String) → Request Json
  link : (casefileId sessionId : String) → Request Json
  create_operation : create.operation = OperationName.createCasefile
  create_user : create.userId = user
  create_reads : Payload.decoder create.payload =
    .ok (CreateCasefile.mk p.title p.description p.tags)
  start_operation : ∀ c, (start c).operation = OperationName.createSession
  start_user : ∀ c, (start c).userId = user
  start_reads : ∀ c, Payload.decoder (start c).payload = .ok (CreateSession.mk p.sessionTitle)
  start_casefile : ∀ c, (start c).metadataCasefile? = some c
  link_operation : ∀ c t, (link c t).operation = OperationName.addSession
  link_reads : ∀ c t, Payload.decoder (link c t).payload = .ok (AddSession.mk c t)

namespace Hub

variable {h : Hub Store} {r : Request Json} {e e' : Environment Store}

/-- The request is completed, under some deadline, with a payload. -/
def Completes (h : Hub Store) (r : Request Json) (e : Environment Store) (payload : Json)
    (e' : Environment Store) : Prop :=
  ∃ d resp, h.dispatch r d e = (some (.ok resp), e') ∧ resp.status = .completed ∧
    resp.payload = payload

/-- The parts are completed, one after the other, with a casefile and a session; without a session
the first is all. -/
inductive Separately (h : Hub Store) {p : CreateCasefileWithSession} {user : Option String}
    (parts : PartRequests p user) (e : Environment Store) :
    String → Option String → Environment Store → Prop
  | alone {casefileId : String} {created : Json} {e₁ : Environment Store}
      (hdeclined : p.autoStartSession = false) (hcreate : h.Completes parts.create e created e₁)
      (hcasefile : created.member? "casefile_id" = some (.str casefileId)) :
      Separately h parts e casefileId none e₁
  | all {casefileId sessionId : String} {created started linked : Json}
      {e₁ e₂ e₃ e₄ e₅ : Environment Store} (hstarted : p.autoStartSession = true)
      (hcreate : h.Completes parts.create e created e₁)
      (hcasefile : created.member? "casefile_id" = some (.str casefileId)) (hpause : e₁.Pauses e₂)
      (hstart : h.Completes (parts.start casefileId) e₂ started e₃)
      (hsession : started.member? "session_id" = some (.str sessionId)) (hpause' : e₃.Pauses e₄)
      (hlink : h.Completes (parts.link casefileId sessionId) e₄ linked e₅) :
      Separately h parts e casefileId (some sessionId) e₅

/-! ## Requests that are completed -/

/-- A hub over the store with the built-in operations, and perhaps others. -/
structure Standard (h : Hub Store) : Prop where
  services : h.services = Store.services
  hooks : Hook.AllSilent h.hooks
  registered : ∀ route ∈ Route.builtin, h.operations.get? route.operation = some route

theorem Standard.serves (hstd : h.Standard) (route : Route Store) (hr : route ∈ Route.builtin) :
    h.Serves route where
  services := hstd.services
  hooks := hstd.hooks
  registered := hstd.registered route hr
  steady := Route.builtin_steady hr

/-- A request is completed exactly if its operation succeeds, with the payload of that. -/
theorem Serves.completes_iff {route : Route Store} (hx : h.Serves route)
    (hop : r.operation = route.operation)
    {call : Services Store → ServiceCall Store Json} (hhandler : route.handler r = .ok call)
    {v : Json} :
    h.Completes r e v e' ↔ ∀ d, (call Store.services).run d e = (some (.ok v), e') := by
  obtain ⟨result, e₁, hcall⟩ := (hx.steady.clean hhandler).prompt e
  constructor
  · rintro ⟨d, resp, hrun, hstatus, rfl⟩ d'
    obtain ⟨metadata, hdispatch⟩ := hx.dispatch_of_ok hop hhandler hcall d
    rw [hdispatch] at hrun
    cases hrun
    cases result with
    | ok v => exact hcall d'
    | error err => cases hstatus
  · intro hsuccess
    obtain ⟨metadata, hdispatch⟩ := hx.dispatch_of_ok hop hhandler hsuccess none
    exact ⟨none, _, hdispatch, rfl, rfl⟩

/-- A request to a service is completed exactly if it has its effect. -/
theorem Serves.completes_iff_effect {Req Resp : Type} [Payload Req] [Payload Resp] {name : String}
    {perform : Services Store → Request Req → ServiceCall Store Resp} {policy : Option String}
    (hx : h.Serves (.typed name perform policy)) (hop : r.operation = name) {payload : Req}
    (hread : Payload.decoder r.payload = .ok payload)
    (receive : Request Req → ServiceRequest) (wrap : Resp → ServiceAnswer)
    (hserve : ∀ q, Store.services.serve (receive q) = wrap <$> perform Store.services q)
    (hwrap : ∀ a, (wrap a).toJson = Payload.toJson a) {v : Json} :
    h.Completes r e v e' ↔ ∃ a s, Store.Effect e.unused e.now e.state
        (receive (r.withPayload payload)) a s ∧ v = a.toJson ∧
      e' = { e with
        state := s, unused := e.unused + (receive (r.withPayload payload)).numbers } := by
  rw [hx.completes_iff hop (Route.typedHandler_of_ok perform hread),
    Route.map_toJson_serve hserve hwrap]
  constructor
  · intro hrun
    obtain ⟨result, hserved, hanswer⟩ := ServiceCall.exists_of_run_map (hrun none)
    cases hp : e.state.perform e.unused e.now (receive (r.withPayload payload)) with
    | ok p =>
      have heffect := Store.effect_of_perform hp
      rw [Store.serve_of_effect heffect] at hserved
      cases hserved
      cases hanswer
      exact ⟨_, _, heffect, rfl, rfl⟩
    | error err =>
      rw [Store.serve_of_failure hp] at hserved
      cases hserved
      cases hanswer
  · rintro ⟨a, s, heffect, rfl, rfl⟩ d
    exact ServiceCall.run_map_of_run (Store.serve_of_effect heffect d) ServiceAnswer.toJson

/-! ## The parts -/

section
variable {p : CreateCasefileWithSession} {user : Option String} (hstd : h.Standard)
  (parts : PartRequests p user)
include hstd

theorem completes_create_iff {v : Json} :
    h.Completes parts.create e v e' ↔ ∃ a s, Store.Effect e.unused e.now e.state
        (.createCasefile (parts.create.withPayload ⟨p.title, p.description, p.tags⟩)) a s ∧
      v = a.toJson ∧ e' = { e with state := s, unused := e.unused + 1 } :=
  (hstd.serves .createCasefile (by simp [Route.builtin])).completes_iff_effect
    parts.create_operation parts.create_reads .createCasefile
    .casefileCreated (fun _ => rfl) fun _ => rfl

theorem completes_start_iff {casefileId : String} {v : Json} :
    h.Completes (parts.start casefileId) e v e' ↔ ∃ a s, Store.Effect e.unused e.now e.state
        (.createSession ((parts.start casefileId).withPayload ⟨p.sessionTitle⟩)) a s ∧
      v = a.toJson ∧ e' = { e with state := s, unused := e.unused + 1 } :=
  (hstd.serves .createSession (by simp [Route.builtin])).completes_iff_effect
    (parts.start_operation _) (parts.start_reads _) .createSession
    .sessionCreated (fun _ => rfl) fun _ => rfl

theorem completes_link_iff {casefileId sessionId : String} {v : Json} :
    h.Completes (parts.link casefileId sessionId) e v e' ↔
      ∃ a s, Store.Effect e.unused e.now e.state (.addSession
        ((parts.link casefileId sessionId).withPayload ⟨casefileId, sessionId⟩)) a s ∧
      v = a.toJson ∧ e' = { e with state := s } :=
  (hstd.serves .addSession (by simp [Route.builtin])).completes_iff_effect
    (parts.link_operation _ _) (parts.link_reads _ _) .addSession
    .sessionAdded (fun _ => rfl) fun _ => rfl

/-- The first part creates the casefile that its response names. -/
theorem created_of_completes {casefileId : String} {v : Json}
    (hcreate : h.Completes parts.create e v e')
    (hcasefile : v.member? "casefile_id" = some (.str casefileId)) :
    Workflow.Created p user e.state e.unused e'.state ∧
      casefileId = Identifier.casefile e.unused ∧ e'.unused = e.unused + 1 := by
  obtain ⟨a, s, heffect, rfl, rfl⟩ := (completes_create_iff hstd parts).1 hcreate
  refine ⟨.mk heffect rfl parts.create_user, ?_, rfl⟩
  cases heffect
  exact (Json.str.inj (Option.some.inj hcasefile)).symm

/-- The parts have their effects one after the other. -/
theorem composed_of_separately {casefileId sessionId : String}
    (hparts : h.Separately parts e casefileId (some sessionId) e') :
    ∃ m, e.unused ≤ m ∧ casefileId = Identifier.casefile e.unused ∧
      sessionId = Identifier.session m ∧
      Workflow.Composed p user e.state e.unused m e'.state := by
  cases hparts with
  | @all _ created started linked e₁ e₂ e₃ e₄ _ hstarted hcreate hcasefile hpause hstart hsession
      hpause' hlink =>
    obtain ⟨hfirst, rfl, hunused⟩ := created_of_completes hstd parts hcreate hcasefile
    obtain ⟨a₂, s₂, hsecond, rfl, rfl⟩ := (completes_start_iff hstd parts).1 hstart
    obtain ⟨a₃, s₃, hthird, rfl, rfl⟩ := (completes_link_iff hstd parts).1 hlink
    obtain ⟨hstate, hle⟩ := hpause
    obtain ⟨hstate', -⟩ := hpause'
    obtain rfl : Identifier.session e₂.unused = sessionId := by
      cases hsecond
      exact Json.str.inj (Option.some.inj hsession)
    rw [hstate] at hsecond
    rw [hstate'] at hthird
    refine ⟨e₂.unused, by omega, rfl, rfl, ?_⟩
    exact .mk hfirst hsecond rfl (parts.start_user _) (parts.start_casefile _) hthird rfl

/-- The parts of a request with a proper title can be completed, one after the other. -/
theorem exists_separately (htitle : Text.trim p.title ≠ "") (e : Environment Store) :
    ∃ casefileId sessionId e', h.Separately parts e casefileId sessionId e' := by
  obtain ⟨s₁, hfirst, hcasefile⟩ := Store.exists_casefileCreated e.unused e.now e.state
    (r := parts.create.withPayload ⟨p.title, p.description, p.tags⟩) htitle
  have hcreate := (completes_create_iff hstd parts).2 ⟨_, s₁, hfirst, rfl, rfl⟩
  cases hauto : p.autoStartSession with
  | false => exact ⟨_, _, _, .alone hauto hcreate rfl⟩
  | true =>
    obtain ⟨s₂, hsecond, hcasefile', hsession⟩ := Store.exists_sessionCreated (e.unused + 1) e.now
      (r := (parts.start (Identifier.casefile e.unused)).withPayload ⟨p.sessionTitle⟩)
      (parts.start_casefile _) hcasefile
    have hstart := (completes_start_iff (e := { e with state := s₁, unused := e.unused + 1 })
      hstd parts).2 ⟨_, s₂, hsecond, rfl, rfl⟩
    obtain ⟨a, s₃, hthird⟩ := Store.exists_sessionAdded (e.unused + 2) e.now
      (r := (parts.link (Identifier.casefile e.unused)
        (Identifier.session (e.unused + 1))).withPayload
          ⟨Identifier.casefile e.unused, Identifier.session (e.unused + 1)⟩) hcasefile' hsession
    have hlink := (completes_link_iff (e := { e with state := s₂, unused := e.unused + 2 })
      hstd parts).2 ⟨_, s₃, hthird, rfl, rfl⟩
    have hpause (e : Environment Store) : e.Pauses e := ⟨rfl, Nat.le_refl _⟩
    exact ⟨_, _, _, .all hauto hcreate rfl (hpause _) hstart rfl (hpause _) hlink⟩

end

/-! ## The composite operation -/

/-- A composite request that is completed has a title that is not blank, and its payload and its
store are those of the workflow. -/
theorem run_of_completes (hstd : h.Standard) {p : CreateCasefileWithSession}
    (hop : r.operation = OperationName.createCasefileWithSession)
    (hread : Payload.decoder r.payload = .ok p) {v : Json} (hdone : h.Completes r e v e') :
    Text.trim p.title ≠ "" ∧ ∃ a, v = Payload.toJson a ∧
      (Workflow.createCasefileWithSession Store.services (r.withPayload p)).run none e =
        (some (.ok a), e') := by
  have hx := hstd.serves .createCasefileWithSession (by simp [Route.builtin])
  have hrun := (hx.completes_iff hop (Route.typedHandler_of_ok _ hread)).1 hdone none
  obtain ⟨result, hworkflow, hanswer⟩ := ServiceCall.exists_of_run_map hrun
  cases result with
  | error err => cases hanswer
  | ok a =>
    cases hanswer
    refine ⟨fun hblank => ?_, a, rfl, hworkflow⟩
    rw [Workflow.createCasefileWithSession_of_blank (r := r.withPayload p)
      (String.isEmpty_iff.2 hblank)] at hworkflow
    cases hworkflow

/-- A composite request with a proper title is completed. -/
theorem exists_completes (hstd : h.Standard) {p : CreateCasefileWithSession}
    (hop : r.operation = OperationName.createCasefileWithSession)
    (hread : Payload.decoder r.payload = .ok p) (htitle : Text.trim p.title ≠ "")
    (e : Environment Store) : ∃ v e', h.Completes r e v e' := by
  have hx := hstd.serves .createCasefileWithSession (by simp [Route.builtin])
  obtain ⟨a, e', hrun⟩ := Workflow.exists_run_of_titled (r := r.withPayload p) htitle e
  refine ⟨Payload.toJson a, e', (hx.completes_iff hop (Route.typedHandler_of_ok _ hread)).2 ?_⟩
  exact fun d => ServiceCall.run_map_of_run (hrun d) Payload.toJson

section
variable {p : CreateCasefileWithSession} {user : Option String} {parts : PartRequests p user}
  {k m : Nat} {s' : Store} {casefileId : String} {sessionId : Option String}

/-- The store of the first part is matched by that of the parts, if the first is all of them. -/
theorem matches_of_created (hstd : h.Standard) (hauto : p.autoStartSession = false)
    (hcreated : Workflow.Created p user e.state k s') (hfresh : e.state.Fresh k)
    (he : Store.Reachable e) (hparts : h.Separately parts e casefileId sessionId e') :
    ∃ ρ : Renaming, ρ.Fixes e.state ∧ casefileId = ρ.casefile (Identifier.casefile k) ∧
      sessionId = none ∧ s'.Matches ρ e'.state := by
  obtain ⟨hfresh', hsound⟩ := he.fresh_and_sound
  cases hparts with
  | alone hdeclined hcreate hcasefile =>
    obtain ⟨hfirst, rfl, -⟩ := created_of_completes hstd parts hcreate hcasefile
    have hfix := Renaming.exchange_fixes hfresh hfresh' hfresh hfresh'
    refine ⟨_, hfix, (Renaming.exchange_casefile ..).symm, rfl, ?_⟩
    exact hcreated.matching hfirst (.refl hsound hfix) (Renaming.exchange_casefile ..)
  | all hstarted _ _ _ _ _ _ _ =>
    rw [hauto] at hstarted
    cases hstarted

/-- The store of all parts is matched by that of the parts, if a session is among them. -/
theorem matches_of_composed (hstd : h.Standard) (hauto : p.autoStartSession = true)
    (hcomposed : Workflow.Composed p user e.state k m s') (hfresh : e.state.Fresh k)
    (hfreshSession : e.state.Fresh m) (he : Store.Reachable e)
    (hparts : h.Separately parts e casefileId sessionId e') :
    ∃ ρ : Renaming, ρ.Fixes e.state ∧ casefileId = ρ.casefile (Identifier.casefile k) ∧
      sessionId = some (ρ.session (Identifier.session m)) ∧ s'.Matches ρ e'.state := by
  obtain ⟨hfresh', hsound⟩ := he.fresh_and_sound
  cases sessionId with
  | none =>
    cases hparts with
    | alone hdeclined _ _ =>
      rw [hauto] at hdeclined
      cases hdeclined
  | some sessionId =>
    obtain ⟨m', hle, rfl, rfl, hcomposed'⟩ := composed_of_separately hstd parts hparts
    have hfix := Renaming.exchange_fixes hfresh hfresh' hfreshSession (hfresh'.mono hle)
    refine ⟨_, hfix, (Renaming.exchange_casefile ..).symm, by rw [Renaming.exchange_session], ?_⟩
    exact hcomposed.matching hcomposed' (.refl hsound hfix) (Renaming.exchange_casefile ..)
      (Renaming.exchange_session ..)

end

/-- **The composite operation refines its parts.** A composite request is completed, from a store that
can be reached. Its response names a casefile, and with it a session and the one link between both
unless the request declines that. They are new, the casefile lists that session only, and everything
else is as before. In any other environment with the same store the parts can be completed one after
the other, and whenever they are, the stores match under a renaming of what is new. Without a session
the first part is all. -/
theorem composite_refines_parts (hstd : h.Standard) {p : CreateCasefileWithSession}
    (hop : r.operation = OperationName.createCasefileWithSession)
    (hread : Payload.decoder r.payload = .ok p) {v : Json} (he : Store.Reachable e)
    (hdone : h.Completes r e v e') :
    ∃ casefileId sessionId, sessionId.isSome = p.autoStartSession ∧
      v = Payload.toJson (CasefileWithSessionCreated.mk casefileId sessionId
        (sessionId.toList.map (ResourceLink.mk casefileId))) ∧
      e.state.Gains e'.state casefileId sessionId ∧
      ∀ (parts : PartRequests p r.userId) e₁, Store.Reachable e₁ → e₁.state = e.state →
        (∃ casefileId' sessionId' e₂, h.Separately parts e₁ casefileId' sessionId' e₂) ∧
        ∀ casefileId' sessionId' e₂, h.Separately parts e₁ casefileId' sessionId' e₂ →
          ∃ ρ : Renaming, ρ.Fixes e.state ∧ casefileId' = ρ.casefile casefileId ∧
            sessionId' = sessionId.map ρ.session ∧ e'.state.Matches ρ e₂.state := by
  obtain ⟨hfresh, -⟩ := he.fresh_and_sound
  obtain ⟨htitle, a, rfl, hrun⟩ := run_of_completes hstd hop hread hdone
  have hlater (k : Nat) : e.state.Fresh (e.unused + k) := hfresh.mono (Nat.le_add_right _ k)
  cases hauto : p.autoStartSession with
  | false =>
    obtain ⟨s₁, hcreated, hworkflow⟩ :=
      Workflow.run_of_declined (r := r.withPayload p) htitle hauto e
    rw [hworkflow] at hrun
    cases hrun
    refine ⟨_, none, rfl, rfl, hcreated.gains (hlater 1), fun parts e₁ he₁ hstate => ?_⟩
    refine ⟨exists_separately hstd parts htitle e₁, fun _ _ _ hparts => ?_⟩
    rw [← hstate] at hcreated hlater ⊢
    exact matches_of_created hstd hauto hcreated (hlater 1) he₁ hparts
  | true =>
    obtain ⟨s₃, hcomposed, hworkflow⟩ :=
      Workflow.run_of_started (r := r.withPayload p) htitle hauto e
    rw [hworkflow] at hrun
    cases hrun
    refine ⟨_, some _, rfl, rfl, hcomposed.gains (hlater 1) (hlater 3),
      fun parts e₁ he₁ hstate => ?_⟩
    refine ⟨exists_separately hstd parts htitle e₁, fun _ _ _ hparts => ?_⟩
    rw [← hstate] at hcomposed hlater ⊢
    exact matches_of_composed hstd hauto hcomposed (hlater 1) (hlater 3) he₁ hparts

/-- A request for a casefile, with a session in it. -/
def opening : Request Json where
  requestId := "r"
  userId := some "u"
  operation := OperationName.createCasefileWithSession
  payload := .obj [("title", .str " Outage "), ("session_title", .str "Call")]

/-- What it asks for. -/
def openingPayload : CreateCasefileWithSession where
  title := " Outage "
  sessionTitle := some "Call"

/-- The same in three requests. -/
def openingParts : PartRequests openingPayload (some "u") where
  create :=
    { requestId := "a", userId := some "u", operation := OperationName.createCasefile
      payload := .obj [("title", .str " Outage ")] }
  start c :=
    { requestId := "b", userId := some "u", operation := OperationName.createSession
      payload := .obj [("title", .str "Call")]
      metadata := .insert .empty Request.casefileKey (.str c) }
  link c t :=
    { requestId := "c", operation := OperationName.addSession
      payload := .obj [("casefile_id", .str c), ("session_id", .str t)] }
  create_operation := rfl
  create_user := rfl
  create_reads := rfl
  start_operation _ := rfl
  start_user _ := rfl
  start_reads _ := rfl
  start_casefile _ := rfl
  link_operation _ _ := rfl
  link_reads _ _ := rfl

theorem inMemory_standard (config : HubConfig) : (inMemory config).Standard where
  services := rfl
  hooks := Hook.builtin_silent
  registered _ := Route.get?_builtinTable

/-- From an empty store, the request and its parts lead to matching stores, whatever the numbers. -/
theorem opening_refines_parts :
    ∃ v e', (inMemory {}).Completes opening ⟨{}, 0, ⟨0⟩, 0⟩ v e' ∧
      ∃ casefileId sessionId e₂,
        (inMemory {}).Separately openingParts ⟨{}, 0, ⟨9⟩, 7⟩ casefileId sessionId e₂ ∧
        sessionId.isSome ∧ ∃ ρ : Renaming, e'.state.Matches ρ e₂.state := by
  have hstd := inMemory_standard {}
  have htitle : Text.trim openingPayload.title ≠ "" := by decide
  have hread : Payload.decoder opening.payload = .ok openingPayload := rfl
  obtain ⟨v, e', hdone⟩ := exists_completes hstd rfl hread htitle ⟨{}, 0, ⟨0⟩, 0⟩
  have hreach (e : Environment Store) (hempty : e.state = {}) : Store.Reachable e :=
    ⟨e.unused, hempty ▸ .refl⟩
  obtain ⟨casefileId, sessionId, hsome, -, -, hparts⟩ :=
    composite_refines_parts hstd rfl hread (hreach _ rfl) hdone
  obtain ⟨⟨casefileId', sessionId', e₂, hrun⟩, hmatch⟩ :=
    hparts openingParts ⟨{}, 0, ⟨9⟩, 7⟩ (hreach _ rfl) rfl
  obtain ⟨ρ, -, -, hsession, hstores⟩ := hmatch _ _ _ hrun
  refine ⟨v, e', hdone, casefileId', sessionId', e₂, hrun, ?_, ρ, hstores⟩
  rw [hsession, Option.isSome_map, hsome]
  rfl

end Hub

end CasefileHub
