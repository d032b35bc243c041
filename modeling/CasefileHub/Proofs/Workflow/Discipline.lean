import CasefileHub.Proofs.Identifier
import CasefileHub.Proofs.Service.Recorded
import CasefileHub.Proofs.Timed.Follows
import CasefileHub.Proofs.Workflow.Effects
/-!
# What the composite operation asks of its services

The workflow runs over services that may answer anything at any call, fail, change the state as they
like or wait until a deadline passes. What it asks of them is set all the same: to create, to start
and to link, in this order and as parts of the request, each only after the one before was answered,
with the identifiers that were answered. The first call that is not answered ends it.

    every run, with its calls on record, Proceeds in one of five ways          (exists_proceeds)
    every run is Disciplined, and its parts have identifiers of their own  (runs_are_disciplined)
-/

namespace CasefileHub

/-- No number that was used is given back. -/
def Environment.Spends {σ : Type} (e e' : Environment σ) : Prop := e.unused ≤ e'.unused

theorem ServiceCall.Follows.unused_le {σ α : Type} {call : ServiceCall σ α}
    (h : call.Follows Environment.Spends) {d : Option Nat} {e e' : Environment σ}
    {answer : Option (Except ServiceError α)} (hrun : call.run d e = (answer, e')) :
    e.unused ≤ e'.unused := by
  have hspent := h d e
  rw [hrun] at hspent
  exact hspent

/-! ## Requests for parts -/

/-- A request without its payload. -/
def ServiceRequest.envelope : ServiceRequest → Request Unit
  | .createCasefile q => q.withPayload ()
  | .getCasefile q => q.withPayload ()
  | .addSession q => q.withPayload ()
  | .createSession q => q.withPayload ()
  | .processChat q => q.withPayload ()

/-- A part is for the same user and session, names the request that it is part of, and has no
context, hooks or policy. -/
structure Request.IsPartOf {P Q : Type} (q : Request Q) (r : Request P) : Prop where
  userId : q.userId = r.userId
  sessionId : q.sessionId = r.sessionId
  parent : q.metadata.get? Request.parentKey = some (.str r.requestId)
  contextRequirements : q.contextRequirements = []
  hooks : q.hooks = []
  policyHints : q.policyHints = {}
  routeDirectives : q.routeDirectives = .empty

namespace Workflow

variable {σ : Type}

/-! ## How a run proceeds -/

section
variable (r : Request CreateCasefileWithSession) (k : Nat)

/-- The first call: a casefile is asked for by the request with the number `k`. -/
def creating (answer : Option (Except ServiceError CasefileCreated)) : Asked where
  request := .createCasefile (firstPart r (Identifier.request k))
  answer := answer.map (Except.map .casefileCreated)

/-- The second call, in the casefile that was created. -/
def starting (created : CasefileCreated) (answer : Option (Except ServiceError SessionCreated)) :
    Asked where
  request := .createSession (secondPart r (Identifier.request k) created.casefileId)
  answer := answer.map (Except.map .sessionCreated)

/-- The third call, for the casefile that was created and the session that was started. -/
def linking (created : CasefileCreated) (started : SessionCreated)
    (answer : Option (Except ServiceError SessionAdded)) : Asked where
  request := .addSession (thirdPart r (Identifier.request k) created.casefileId started.sessionId)
  answer := answer.map (Except.map .sessionAdded)

/-- A call that fails with an error, or is given up if there is none. -/
def stopped {α : Type} (err : Option ServiceError) : Option (Except ServiceError α) :=
  err.map .error

/-- The ways in which a run uses numbers, calls the services and ends: one of its calls stops it, or
there is no session to start, or all is done. -/
inductive Proceeds :
    List Nat → List Asked → Option (Except ServiceError CasefileWithSessionCreated) → Prop
  | uncreated {k : Nat} (err : Option ServiceError) :
      Proceeds [k] [creating r k (stopped err)] (stopped err)
  | declined {k : Nat} {created : CasefileCreated} (hauto : r.payload.autoStartSession = false) :
      Proceeds [k] [creating r k (some (.ok created))]
        (some (.ok ⟨created.casefileId, none, []⟩))
  | unstarted {k m : Nat} {created : CasefileCreated} (hauto : r.payload.autoStartSession = true)
      (err : Option ServiceError) :
      Proceeds [k, m]
        [creating r k (some (.ok created)), starting r m created (stopped err)] (stopped err)
  | unlinked {k m n : Nat} {created : CasefileCreated} {started : SessionCreated}
      (hauto : r.payload.autoStartSession = true) (err : Option ServiceError) :
      Proceeds [k, m, n]
        [creating r k (some (.ok created)), starting r m created (some (.ok started)),
          linking r n created started (stopped err)] (stopped err)
  | linked {k m n : Nat} {created : CasefileCreated} {started : SessionCreated}
      {added : SessionAdded} (hauto : r.payload.autoStartSession = true) :
      Proceeds [k, m, n]
        [creating r k (some (.ok created)), starting r m created (some (.ok started)),
          linking r n created started (some (.ok added))]
        (some (.ok ⟨created.casefileId, some started.sessionId,
          [⟨created.casefileId, started.sessionId⟩]⟩))

end

section
variable {P Q α β : Type} {r : Request P} {operation : String} {payload : Q} {d : Option Nat}
  {e : Environment σ} {asked : List Asked} {call : Request Q → ServiceCall σ α}
  {sent : Request Q → ServiceRequest} {wrap : α → ServiceAnswer} {f : α → ServiceCall σ β}
  {f' : α → ServiceCall (Recorded σ) β} {C : List Asked → Option (Except ServiceError β) → Prop}

/-- A part is made and sent. The call stops the run, on record as without, or it is answered and the
run goes on. -/
theorem exists_part_call {q : Request Q}
    (hq : r.part (Identifier.request e.unused) operation payload = q)
    (hstopped : ∀ err : Option ServiceError,
      C (asked ++ [⟨sent q, (stopped err).map (Except.map wrap)⟩]) (stopped err))
    (hanswered : ∀ a e₁, (call q).run d { e with unused := e.unused + 1 } = (some (.ok a), e₁) →
      ∃ asked' result e', (f a).run d e₁ = (result, e') ∧
        (f' a).run d (e₁.recording (asked ++ [⟨sent q, some (.ok (wrap a))⟩])) =
          (result, e'.recording asked') ∧
        C asked' result) :
    ∃ asked' result e', (part r operation payload >>= fun q => call q >>= f).run d e = (result, e') ∧
      (part r operation payload >>= fun q => Recorded.call (sent q) wrap (call q) >>= f').run d
        (e.recording asked) = (result, e'.recording asked') ∧
      C asked' result := by
  have hpart : (part r operation payload >>= fun q => call q >>= f).run d e =
      (call q >>= f).run d { e with unused := e.unused + 1 } := by rw [← hq]; rfl
  have hrecorded : (part r operation payload >>= fun q =>
      Recorded.call (sent q) wrap (call q) >>= f').run d (e.recording asked) =
      (Recorded.call (sent q) wrap (call q) >>= f').run d
        (Environment.recording { e with unused := e.unused + 1 } asked) := by rw [← hq]; rfl
  rw [hpart, hrecorded, ServiceCall.run_bind_apply, Recorded.run_call_bind]
  rcases hrun : (call q).run d { e with unused := e.unused + 1 } with ⟨_ | err | a, e₁⟩
  · exact ⟨_, _, _, rfl, rfl, hstopped none⟩
  · exact ⟨_, _, _, rfl, rfl, hstopped (some err)⟩
  · exact hanswered a e₁ hrun

end

/-- Every run proceeds in one of the ways, on record as without. The numbers of its parts are new,
one after the other, if the services give none back. -/
theorem exists_proceeds (s : Services σ) (r : Request CreateCasefileWithSession) (d : Option Nat)
    (e : Environment σ) :
    ∃ asked result e',
      (createCasefileWithSession s r).run d e = (result, e') ∧
      (createCasefileWithSession s.recorded r).run d (e.recording []) =
        (result, e'.recording asked) ∧
      ∃ numbers, Proceeds r numbers asked result ∧
        (s.Follow Environment.Spends →
          numbers.Pairwise (· < ·) ∧ ∀ n ∈ numbers, e.unused ≤ n) := by
  unfold createCasefileWithSession
  simp only [Services.recorded_createCasefile, Services.recorded_createSession,
    Services.recorded_addSession]
  refine exists_part_call rfl (fun err => ⟨_, .uncreated err, fun _ => by simp⟩)
    fun created e₁ hcreate => ?_
  have hfirst (hs : s.Follow Environment.Spends) : e.unused < e₁.unused :=
    (hs.createCasefile _).unused_le hcreate
  cases hauto : r.payload.autoStartSession with
  | false => exact ⟨_, _, _, rfl, rfl, _, .declined hauto, fun _ => by simp⟩
  | true =>
    simp only [Bool.not_true, Bool.false_eq_true, if_false]
    have hnumbers (hs : s.Follow Environment.Spends) :
        [e.unused, e₁.unused].Pairwise (· < ·) ∧ ∀ n ∈ [e.unused, e₁.unused], e.unused ≤ n := by
      simp [hfirst hs, Nat.le_of_lt (hfirst hs)]
    refine exists_part_call rfl (fun err => ⟨_, .unstarted hauto err, hnumbers⟩)
      fun started e₂ hstart => ?_
    have hnumbers' (hs : s.Follow Environment.Spends) :
        [e.unused, e₁.unused, e₂.unused].Pairwise (· < ·) ∧
          ∀ n ∈ [e.unused, e₁.unused, e₂.unused], e.unused ≤ n := by
      have hsecond : e₁.unused < e₂.unused := (hs.createSession _).unused_le hstart
      have hthird := Nat.lt_trans (hfirst hs) hsecond
      simp [hfirst hs, hsecond, hthird, Nat.le_of_lt (hfirst hs), Nat.le_of_lt hthird]
    refine exists_part_call rfl (fun err => ⟨_, .unlinked hauto err, hnumbers'⟩)
      fun added e₃ _ => ?_
    exact ⟨_, _, _, rfl, rfl, _, .linked hauto, hnumbers'⟩

/-! ## The discipline -/

/-- A step of the workflow. -/
inductive Step where
  | create | start | link
deriving DecidableEq, Repr

/-- The step that a request is for, if it is for one. -/
def Step.of? : ServiceRequest → Option Step
  | .createCasefile _ => some .create
  | .createSession _ => some .start
  | .addSession _ => some .link
  | .getCasefile _ | .processChat _ => none

/-- Some request for a casefile was answered so. -/
def WasCreated (asked : List Asked) (created : CasefileCreated) : Prop :=
  ∃ q, ⟨.createCasefile q, some (.ok (.casefileCreated created))⟩ ∈ asked

def WasStarted (asked : List Asked) (started : SessionCreated) : Prop :=
  ∃ q, ⟨.createSession q, some (.ok (.sessionCreated started))⟩ ∈ asked

def WasLinked (asked : List Asked) : Prop :=
  ∃ q added, ⟨.addSession q, some (.ok (.sessionAdded added))⟩ ∈ asked

/-- What a run for a request asks of the services, and how it ends. -/
structure Disciplined (r : Request CreateCasefileWithSession) (asked : List Asked)
    (result : Option (Except ServiceError CasefileWithSessionCreated)) : Prop where
  /-- There is a first call, and the calls are the first of the steps, in their order. -/
  nonempty : asked ≠ []
  steps : asked.map (Step.of? ·.request) <+: [some .create, some .start, some .link]
  alone : r.payload.autoStartSession = false → asked.length = 1
  /-- A call comes only after all calls before it were answered without an error. -/
  chained : ∀ a ∈ asked.dropLast, ∃ answer, a.answer = some (.ok answer)
  parts : ∀ a ∈ asked, a.request.envelope.IsPartOf r
  /-- Each call carries what the request says, and what was answered before. -/
  create : ∀ q answer, ⟨.createCasefile q, answer⟩ ∈ asked →
    q.payload = ⟨r.payload.title, r.payload.description, r.payload.tags⟩
  start : ∀ q answer, ⟨.createSession q, answer⟩ ∈ asked → q.payload = ⟨r.payload.sessionTitle⟩ ∧
    ∃ created, WasCreated asked created ∧ q.metadataCasefile? = some created.casefileId
  link : ∀ q answer, ⟨.addSession q, answer⟩ ∈ asked →
    ∃ created started, WasCreated asked created ∧ WasStarted asked started ∧
      q.payload = ⟨created.casefileId, started.sessionId⟩
  /-- The run fails exactly with the error of a call, and is given up exactly if a call is. -/
  fails : ∀ err, result = some (.error err) ↔ ∃ a ∈ asked, a.answer = some (.error err)
  gives_up : result = none ↔ ∃ a ∈ asked, a.answer = none
  /-- A run that succeeds returns the identifiers that were answered, with one link if a session was
  to be started and with none if not. -/
  declined : ∀ a, result = some (.ok a) → r.payload.autoStartSession = false →
    ∃ created, WasCreated asked created ∧ a = ⟨created.casefileId, none, []⟩
  linked : ∀ a, result = some (.ok a) → r.payload.autoStartSession = true →
    ∃ created started, WasCreated asked created ∧ WasStarted asked started ∧ WasLinked asked ∧
      a = ⟨created.casefileId, some started.sessionId,
        [⟨created.casefileId, started.sessionId⟩]⟩

/-! ## Every run is disciplined -/

section
variable (r : Request CreateCasefileWithSession) (k : Nat) (created : CasefileCreated)
  (started : SessionCreated) (before : Asked) (rest : List Asked)

theorem wasCreated_creating :
    WasCreated (creating r k (some (.ok created)) :: rest) created := ⟨_, .head _⟩

theorem wasStarted_starting :
    WasStarted (before :: starting r k created (some (.ok started)) :: rest) started :=
  ⟨_, .tail _ (.head _)⟩

end

/-- A part stands for the same user and session; one may name more in its metadata. -/
theorem part_isPartOf {P Q : Type} (r : Request P) (requestId operation : String) (payload : Q) :
    (r.part requestId operation payload).IsPartOf r where
  userId := rfl
  sessionId := rfl
  parent := by simp [Request.part, Table.get?_insert]
  contextRequirements := rfl
  hooks := rfl
  policyHints := rfl
  routeDirectives := rfl

theorem secondPart_isPartOf (r : Request CreateCasefileWithSession)
    (requestId casefileId : String) : (secondPart r requestId casefileId).IsPartOf r :=
  { part_isPartOf r requestId OperationName.createSession
      (CreateSession.mk r.payload.sessionTitle) with
    parent := by
      simp [secondPart, Request.part, Request.withMetadata, Table.get?_insert, Request.parentKey,
        Request.casefileKey] }

namespace Proceeds

variable {r : Request CreateCasefileWithSession} {numbers : List Nat} {asked : List Asked}
  {result : Option (Except ServiceError CasefileWithSessionCreated)}
  {answer : Option (Except ServiceError ServiceAnswer)} (h : Proceeds r numbers asked result)
include h

theorem requestIds : asked.map (·.request.envelope.requestId) = numbers.map Identifier.request := by
  cases h <;> rfl

theorem steps : asked.map (Step.of? ·.request) <+: [some .create, some .start, some .link] := by
  cases h <;> simp [creating, starting, linking, Step.of?]

theorem chained : ∀ a ∈ asked.dropLast, ∃ answer, a.answer = some (.ok answer) := by
  cases h <;> simp [creating, starting, linking, Except.map]

theorem parts : ∀ a ∈ asked, a.request.envelope.IsPartOf r := by
  have hcreating (k : Nat) (answer : Option (Except ServiceError CasefileCreated)) :
      (creating r k answer).request.envelope.IsPartOf r := { part_isPartOf r .. with }
  have hstarting (k : Nat) (created : CasefileCreated)
      (answer : Option (Except ServiceError SessionCreated)) :
      (starting r k created answer).request.envelope.IsPartOf r :=
    { secondPart_isPartOf r .. with }
  have hlinking (k : Nat) (created : CasefileCreated) (started : SessionCreated)
      (answer : Option (Except ServiceError SessionAdded)) :
      (linking r k created started answer).request.envelope.IsPartOf r :=
    { part_isPartOf r .. with }
  cases h <;> simp [hcreating, hstarting, hlinking]

theorem exists_firstPart {q : Request CreateCasefile} (hq : ⟨.createCasefile q, answer⟩ ∈ asked) :
    ∃ k, q = firstPart r (Identifier.request k) := by
  cases h <;> simp only [List.mem_cons, List.not_mem_nil, or_false, creating, starting, linking,
    Asked.mk.injEq, ServiceRequest.createCasefile.injEq, reduceCtorEq, false_and] at hq <;>
    exact ⟨_, hq.1⟩

theorem exists_secondPart {q : Request CreateSession} (hq : ⟨.createSession q, answer⟩ ∈ asked) :
    ∃ k created, WasCreated asked created ∧
      q = secondPart r (Identifier.request k) created.casefileId := by
  cases h <;> simp only [List.mem_cons, List.not_mem_nil, or_false, creating, starting, linking,
    Asked.mk.injEq, ServiceRequest.createSession.injEq, reduceCtorEq, false_and, false_or] at hq <;>
    exact ⟨_, _, wasCreated_creating .., hq.1⟩

theorem exists_thirdPart {q : Request AddSession} (hq : ⟨.addSession q, answer⟩ ∈ asked) :
    ∃ k created started, WasCreated asked created ∧ WasStarted asked started ∧
      q = thirdPart r (Identifier.request k) created.casefileId started.sessionId := by
  cases h <;> simp only [List.mem_cons, List.not_mem_nil, or_false, creating, starting, linking,
    Asked.mk.injEq, ServiceRequest.addSession.injEq, reduceCtorEq, false_and, false_or] at hq <;>
    exact ⟨_, _, _, wasCreated_creating .., wasStarted_starting .., hq.1⟩

theorem fails_iff (err : ServiceError) :
    result = some (.error err) ↔ ∃ a ∈ asked, a.answer = some (.error err) := by
  cases h <;> simp [creating, starting, linking, stopped, Except.map]

theorem gives_up_iff : result = none ↔ ∃ a ∈ asked, a.answer = none := by
  cases h <;> simp [creating, starting, linking, stopped]

theorem disciplined : Disciplined r asked result where
  nonempty := by cases h <;> simp
  steps := h.steps
  alone hauto := by cases h <;> simp_all
  chained := h.chained
  parts := h.parts
  create q answer hq := by
    obtain ⟨k, rfl⟩ := h.exists_firstPart hq
    rfl
  start q answer hq := by
    obtain ⟨k, created, hcreated, rfl⟩ := h.exists_secondPart hq
    exact ⟨rfl, created, hcreated, metadataCasefile?_withMetadata _ _⟩
  link q answer hq := by
    obtain ⟨k, created, started, hcreated, hstarted, rfl⟩ := h.exists_thirdPart hq
    exact ⟨created, started, hcreated, hstarted, rfl⟩
  fails := h.fails_iff
  gives_up := h.gives_up_iff
  declined a ha hauto := by
    cases h with
    | declined => exact ⟨_, wasCreated_creating .., by cases ha; rfl⟩
    | uncreated err => cases err <;> cases ha
    | unstarted hauto' | unlinked hauto' | linked hauto' => rw [hauto] at hauto'; cases hauto'
  linked a ha hauto := by
    cases h with
    | declined hauto' => rw [hauto] at hauto'; cases hauto'
    | uncreated err | unstarted _ err | unlinked _ err => cases err <;> cases ha
    | linked =>
      refine ⟨_, _, wasCreated_creating .., wasStarted_starting .., ?_, by cases ha; rfl⟩
      exact ⟨_, _, .tail _ (.tail _ (.head _))⟩

end Proceeds

/-- **The workflow keeps its discipline over any services.** It looks nothing up. Whatever the
services answer, what it asks of them and how it ends is disciplined, and the record does not change
it. Its parts have identifiers of their own, if no number is given back and the identifier of the
request was not made from a new one. -/
theorem runs_are_disciplined (s : Services σ) (r : Request CreateCasefileWithSession)
    (d : Option Nat) (e : Environment σ) :
    (∀ session? casefile?, createCasefileWithSession
      { s with session? := session?, casefile? := casefile? } r = createCasefileWithSession s r) ∧
    ∃ asked result e',
      (createCasefileWithSession s r).run d e = (result, e') ∧
      (createCasefileWithSession s.recorded r).run d (e.recording []) =
        (result, e'.recording asked) ∧
      Disciplined r asked result ∧
      (s.Follow Environment.Spends → (∀ n, e.unused ≤ n → r.requestId ≠ Identifier.request n) →
        (r.requestId :: asked.map (·.request.envelope.requestId)).Nodup) := by
  obtain ⟨asked, result, e', hrun, hrecorded, numbers, hproceeds, hnumbers⟩ :=
    exists_proceeds s r d e
  refine ⟨fun _ _ => rfl, asked, result, e', hrun, hrecorded, hproceeds.disciplined,
    fun hs hown => ?_⟩
  obtain ⟨hascending, hnew⟩ := hnumbers hs
  rw [hproceeds.requestIds, List.nodup_cons]
  constructor
  · intro hmem
    obtain ⟨n, hn, hid⟩ := List.mem_map.1 hmem
    exact hown n (hnew n hn) hid.symm
  · exact (hascending.imp Nat.ne_of_lt).map _ fun n m hnm => by simpa using hnm

/-- Services that call every casefile `c` and can do no more. -/
def stranding : Services Unit where
  session? _ := pure none
  casefile? _ := pure none
  createCasefile _ := pure ⟨"c", "", ⟨0⟩⟩
  getCasefile _ := throw (.notFound .casefile "c")
  addSession _ := throw (.internal "no links")
  createSession _ := throw (.unavailable "no sessions")
  processChat _ := throw (.notFound .toolSession "t")

theorem stranding_spends : stranding.Follow Environment.Spends where
  session? _ := fun _ _ => Nat.le_refl _
  casefile? _ := fun _ _ => Nat.le_refl _
  createCasefile _ := fun _ _ => Nat.le_refl _
  getCasefile _ := fun _ _ => Nat.le_refl _
  addSession _ := fun _ _ => Nat.le_refl _
  createSession _ := fun _ _ => Nat.le_refl _
  processChat _ := fun _ _ => Nat.le_refl _

/-- A request of the first number, which asks for a session. -/
def startingRequest : Request CreateCasefileWithSession where
  requestId := Identifier.request 0
  operation := OperationName.createCasefileWithSession
  payload := { title := "Leak", autoStartSession := true }

/-- The workflow ends there with the error of its second call. -/
theorem stranding_disciplined : ∃ asked,
    asked.length = 2 ∧
    Disciplined startingRequest asked (some (.error (.unavailable "no sessions"))) ∧
    (startingRequest.requestId :: asked.map (·.request.envelope.requestId)).Nodup := by
  obtain ⟨-, asked, result, e', hrun, hrecorded, hdisciplined, hnodup⟩ :=
    runs_are_disciplined stranding startingRequest none { state := (), unused := 1 }
  have hnew (n : Nat) (hn : 1 ≤ n) : startingRequest.requestId ≠ Identifier.request n := by
    simp [startingRequest]
    omega
  have hresult : result = some (.error (.unavailable "no sessions")) :=
    (congrArg Prod.fst hrun).symm
  have hlength : asked.length = 2 :=
    (congrArg (List.length ∘ Recorded.asked ∘ Environment.state ∘ Prod.snd) hrecorded).symm
  subst hresult
  exact ⟨asked, hlength, hdisciplined, hnodup stranding_spends hnew⟩

end Workflow

end CasefileHub
