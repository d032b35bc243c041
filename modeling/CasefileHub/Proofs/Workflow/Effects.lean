import CasefileHub.Proofs.Store.Operations
import CasefileHub.Proofs.Timed.Prompt
import CasefileHub.Proofs.Workflow
/-!
# The effects of the composite operation

Over the store, the workflow has the effects of the operations that it is composed of, one after the
other: a casefile is created and, unless the request declines it, a session in it is created and
linked to it. It takes no time, and if it fails it has only used up numbers, as each service does:

    the request declines a session → the workflow is its first part           (run_of_declined)
    the request asks for a session → the workflow is all its parts             (run_of_started)
    Store.services.serve q and the workflow are clean                (serve_clean, workflow_clean)
-/

namespace CasefileHub

/-! ## Services -/

namespace Store

section
variable {α β : Type} {d : Option Nat} {e : Environment Store} {s : Store}

/-- An answer that is wrapped up was there before. -/
theorem run_of_map {call : ServiceCall Store α} {f : α → β} (hf : ∀ a a', f a = f a' → a = a')
    {a : α} {e' : Environment Store} (h : (f <$> call).run d e = (some (.ok (f a)), e')) :
    call.run d e = (some (.ok a), e') := by
  obtain ⟨r, hr, hanswer⟩ := ServiceCall.exists_of_run_map h
  cases r with
  | error err => cases hanswer
  | ok a' => rw [hr, hf a a' (Except.ok.inj hanswer)]

theorem serve_of_effect {q : ServiceRequest} {a : ServiceAnswer}
    (h : Effect e.unused e.now e.state q a s) (d : Option Nat) :
    (services.serve q).run d e =
      (some (.ok a), { e with state := s, unused := e.unused + q.numbers }) := by
  rw [serve_apply, perform_of_effect h]
  rfl

theorem serve_of_failure {q : ServiceRequest} {err : ServiceError}
    (h : e.state.perform e.unused e.now q = .error err) (d : Option Nat) :
    (services.serve q).run d e =
      (some (.error err), { e with unused := e.unused + q.numbers }) := by
  rw [serve_apply, h]
  rfl

theorem createCasefile_of_effect {r : Request CreateCasefile} {a : CasefileCreated}
    (h : Effect e.unused e.now e.state (.createCasefile r) (.casefileCreated a) s) :
    (services.createCasefile r).run d e =
      (some (.ok a), { e with state := s, unused := e.unused + 1 }) :=
  run_of_map (fun _ _ => ServiceAnswer.casefileCreated.inj) (serve_of_effect h d)

theorem createSession_of_effect {r : Request CreateSession} {a : SessionCreated}
    (h : Effect e.unused e.now e.state (.createSession r) (.sessionCreated a) s) :
    (services.createSession r).run d e =
      (some (.ok a), { e with state := s, unused := e.unused + 1 }) :=
  run_of_map (fun _ _ => ServiceAnswer.sessionCreated.inj) (serve_of_effect h d)

theorem addSession_of_effect {r : Request AddSession} {a : SessionAdded}
    (h : Effect e.unused e.now e.state (.addSession r) (.sessionAdded a) s) :
    (services.addSession r).run d e = (some (.ok a), { e with state := s }) :=
  run_of_map (fun _ _ => ServiceAnswer.sessionAdded.inj) (serve_of_effect h d)

end

/-- A service answers at once, and has only used up numbers if it fails. -/
theorem serve_clean (q : ServiceRequest) : (services.serve q).run.Clean where
  prompt e := by
    cases hp : e.state.perform e.unused e.now q with
    | ok p => exact ⟨_, _, serve_of_effect (effect_of_perform hp)⟩
    | error err => exact ⟨_, _, serve_of_failure hp⟩
  wastes := by
    intro d e err e' hrun
    cases hp : e.state.perform e.unused e.now q with
    | ok p =>
      rw [serve_of_effect (effect_of_perform hp)] at hrun
      cases hrun
    | error err' =>
      rw [serve_of_failure hp] at hrun
      cases hrun
      exact .numbers e q.numbers

/-! ## Effects in a row -/

section
variable (n : Nat) (now : Timestamp) {s : Store}

theorem exists_casefileCreated (s : Store) {r : Request CreateCasefile}
    (htitle : Text.trim r.payload.title ≠ "") :
    ∃ s', Effect n now s (.createCasefile r)
        (.casefileCreated ⟨Identifier.casefile n, Text.trim r.payload.title, now⟩) s' ∧
      (s'.casefile? (Identifier.casefile n)).isSome := by
  refine ⟨_, .casefileCreated htitle, ?_⟩
  rw [casefile?_putCasefile, if_pos rfl]
  rfl

theorem exists_sessionCreated {r : Request CreateSession} {casefileId : String}
    (hr : r.metadataCasefile? = some casefileId) (hc : (s.casefile? casefileId).isSome) :
    ∃ s', Effect n now s (.createSession r)
        (.sessionCreated ⟨Identifier.session n, some casefileId, now⟩) s' ∧
      (s'.casefile? casefileId).isSome ∧ (s'.session? (Identifier.session n)).isSome := by
  have hscope : ∀ id, r.metadataCasefile? = some id → (s.casefile? id).isSome := by
    intro id hid
    rw [hr] at hid
    cases hid
    exact hc
  rw [← hr]
  refine ⟨_, .sessionCreated hscope, hc, ?_⟩
  rw [session?_putSession, if_pos rfl]
  rfl

theorem exists_sessionAdded {r : Request AddSession}
    (hc : (s.casefile? r.payload.casefileId).isSome)
    (ht : (s.session? r.payload.sessionId).isSome) :
    ∃ a s', Effect n now s (.addSession r) (.sessionAdded a) s' := by
  obtain ⟨c, hc⟩ := Option.isSome_iff_exists.1 hc
  obtain ⟨t, ht⟩ := Option.isSome_iff_exists.1 ht
  exact ⟨_, _, .sessionAdded hc ht⟩

end

end Store

namespace Workflow

open Store (Effect)

/-! ## The workflow -/

/-- The request of the second step, in the casefile of the first. -/
def secondPart (r : Request CreateCasefileWithSession) (requestId casefileId : String) :
    Request CreateSession :=
  (r.part requestId OperationName.createSession
    (CreateSession.mk r.payload.sessionTitle)).withMetadata Request.casefileKey (.str casefileId)

/-- The request of the third step. -/
def thirdPart (r : Request CreateCasefileWithSession) (requestId casefileId sessionId : String) :
    Request AddSession :=
  r.part requestId OperationName.addSession (AddSession.mk casefileId sessionId)

/-- The first part, by some request of the same content: the casefile of a number is created. -/
inductive Created (p : CreateCasefileWithSession) (user : Option String) (s : Store) (k : Nat) :
    Store → Prop
  | mk {now : Timestamp} {r : Request CreateCasefile} {a : ServiceAnswer} {s₁ : Store}
      (heffect : Effect k now s (.createCasefile r) a s₁)
      (hpayload : r.payload = ⟨p.title, p.description, p.tags⟩) (huser : r.userId = user) :
      Created p user s k s₁

/-- All parts, one after the other, by some requests of the same content: a casefile is created, a
session in it is created, and the two are linked. -/
inductive Composed (p : CreateCasefileWithSession) (user : Option String) (s : Store) (k m : Nat) :
    Store → Prop
  | mk {n : Nat} {now now' : Timestamp} {start : Request CreateSession} {link : Request AddSession}
      {a a' : ServiceAnswer} {s₁ s₂ s₃ : Store} (hcreate : Created p user s k s₁)
      (hstart : Effect m now s₁ (.createSession start) a s₂)
      (hpayload : start.payload = ⟨p.sessionTitle⟩) (huser : start.userId = user)
      (hscope : start.metadataCasefile? = some (Identifier.casefile k))
      (hlink : Effect n now' s₂ (.addSession link) a' s₃)
      (hlinked : link.payload = ⟨Identifier.casefile k, Identifier.session m⟩) :
      Composed p user s k m s₃

variable {r : Request CreateCasefileWithSession}

/-- Without a session, the workflow is its first part. -/
theorem run_of_declined (htitle : Text.trim r.payload.title ≠ "")
    (hauto : r.payload.autoStartSession = false) (e : Environment Store) :
    ∃ s₁, Created r.payload r.userId e.state (e.unused + 1) s₁ ∧ ∀ d,
      (createCasefileWithSession Store.services r).run d e =
        (some (.ok ⟨Identifier.casefile (e.unused + 1), none, []⟩),
          { e with state := s₁, unused := e.unused + 2 }) := by
  obtain ⟨s₁, hcreate, -⟩ := Store.exists_casefileCreated (e.unused + 1) e.now e.state
    (r := firstPart r (Identifier.request e.unused)) htitle
  have hfirst (d : Option Nat) :=
    Store.createCasefile_of_effect (d := d) (e := { e with unused := e.unused + 1 }) hcreate
  unfold firstPart at hfirst
  refine ⟨s₁, .mk hcreate rfl rfl, fun d => ?_⟩
  unfold createCasefileWithSession
  rw [ServiceCall.run_bind_apply, part_apply]
  simp only
  rw [ServiceCall.run_bind_apply, hfirst]
  simp only [hauto]
  rfl

/-- With a session, the workflow is all its parts. -/
theorem run_of_started (htitle : Text.trim r.payload.title ≠ "")
    (hauto : r.payload.autoStartSession = true) (e : Environment Store) :
    ∃ s₃, Composed r.payload r.userId e.state (e.unused + 1) (e.unused + 3) s₃ ∧ ∀ d,
      (createCasefileWithSession Store.services r).run d e =
        (some (.ok ⟨Identifier.casefile (e.unused + 1), some (Identifier.session (e.unused + 3)),
            [⟨Identifier.casefile (e.unused + 1), Identifier.session (e.unused + 3)⟩]⟩),
          { e with state := s₃, unused := e.unused + 5 }) := by
  -- each step finds what the steps before it stored
  obtain ⟨s₁, hcreate, hcasefile⟩ := Store.exists_casefileCreated (e.unused + 1) e.now e.state
    (r := firstPart r (Identifier.request e.unused)) htitle
  obtain ⟨s₂, hstart, hcasefile', hsession⟩ := Store.exists_sessionCreated (e.unused + 3) e.now
    (r := secondPart r (Identifier.request (e.unused + 2)) (Identifier.casefile (e.unused + 1)))
    (metadataCasefile?_withMetadata _ _) hcasefile
  obtain ⟨a, s₃, hlink⟩ := Store.exists_sessionAdded (e.unused + 5) e.now
    (r := thirdPart r (Identifier.request (e.unused + 4)) (Identifier.casefile (e.unused + 1))
      (Identifier.session (e.unused + 3))) hcasefile' hsession
  have hfirst (d : Option Nat) :=
    Store.createCasefile_of_effect (d := d) (e := { e with unused := e.unused + 1 }) hcreate
  have hsecond (d : Option Nat) := Store.createSession_of_effect (d := d)
    (e := { e with state := s₁, unused := e.unused + 3 }) hstart
  have hthird (d : Option Nat) := Store.addSession_of_effect (d := d)
    (e := { e with state := s₂, unused := e.unused + 5 }) hlink
  refine ⟨s₃, .mk (.mk hcreate rfl rfl) hstart rfl rfl (metadataCasefile?_withMetadata _ _) hlink
    rfl, fun d => ?_⟩
  unfold firstPart at hfirst
  unfold secondPart at hsecond
  unfold thirdPart at hthird
  unfold createCasefileWithSession
  rw [ServiceCall.run_bind_apply, part_apply]
  simp only
  rw [ServiceCall.run_bind_apply, hfirst]
  simp only [hauto, Bool.not_true, Bool.false_eq_true, if_false]
  rw [ServiceCall.run_bind_apply, part_apply]
  simp only
  rw [ServiceCall.run_bind_apply, hsecond]
  simp only
  rw [ServiceCall.run_bind_apply, part_apply]
  simp only
  rw [ServiceCall.run_bind_apply, hthird]
  rfl

/-- With a title that is not blank it answers at once, whether it starts a session or not. -/
theorem exists_run_of_titled (htitle : Text.trim r.payload.title ≠ "") (e : Environment Store) :
    ∃ a e', ∀ d, (createCasefileWithSession Store.services r).run d e = (some (.ok a), e') := by
  cases hauto : r.payload.autoStartSession with
  | false =>
    obtain ⟨s₁, -, hrun⟩ := run_of_declined htitle hauto e
    exact ⟨_, _, hrun⟩
  | true =>
    obtain ⟨s₃, -, hrun⟩ := run_of_started htitle hauto e
    exact ⟨_, _, hrun⟩

/-- The workflow answers at once, and has only used up numbers if it fails. -/
theorem workflow_clean (r : Request CreateCasefileWithSession) :
    (createCasefileWithSession Store.services r).run.Clean where
  prompt e := by
    by_cases htitle : Text.trim r.payload.title = ""
    · have hblank := createCasefileWithSession_of_blank (String.isEmpty_iff.2 htitle)
      exact ⟨_, _, fun d => hblank d e⟩
    · obtain ⟨a, e', hrun⟩ := exists_run_of_titled htitle e
      exact ⟨_, e', hrun⟩
  wastes := by
    intro d e err e' hfailed
    by_cases htitle : Text.trim r.payload.title = ""
    · rw [createCasefileWithSession_of_blank (String.isEmpty_iff.2 htitle)] at hfailed
      cases hfailed
      exact .numbers e 2
    · obtain ⟨a, e₁, hrun⟩ := exists_run_of_titled htitle e
      rw [hrun] at hfailed
      cases hfailed

end Workflow

end CasefileHub
