import CasefileHub.Proofs.Store
import CasefileHub.Workflow
/-!
# The composite operation over the store

The workflow has no rollback. Over the store it needs none: the first step fails only on a blank
title, before anything is stored, and what the second and the third step look up is what the steps
before them stored.

    createCasefileWithSession Store.services r is atomic               (createCasefileWithSession_atomic)
    it succeeds if the title is not blank                            (createCasefileWithSession_succeeds)
-/

namespace CasefileHub.Workflow

variable {σ P Q : Type}

/-! ## Parts -/

theorem part_apply (r : Request P) (operation : String) (payload : Q) (d : Option Nat)
    (e : Environment σ) :
    (part r operation payload : ServiceCall σ _).run d e =
      (some (.ok (r.part (Identifier.request e.unused) operation payload)),
        { e with unused := e.unused + 1 }) := rfl

theorem part_succeeds (r : Request P) (operation : String) (payload : Q) (I : σ → Prop) :
    (part r operation payload : ServiceCall σ _).Succeeds I
      fun q s => q.payload = payload ∧ I s :=
  fun d e hi => ⟨_, _, part_apply r operation payload d e, rfl, hi⟩

theorem metadataCasefile?_withMetadata (r : Request P) (casefileId : String) :
    (r.withMetadata Request.casefileKey (.str casefileId)).metadataCasefile? = some casefileId := by
  simp [Request.metadataCasefile?, Request.withMetadata, Table.get?_insert, Json.text?]

/-! ## The workflow -/

/-- The request of the first step. -/
def firstPart (r : Request CreateCasefileWithSession) (requestId : String) :
    Request CreateCasefile :=
  r.part requestId OperationName.createCasefile
    (CreateCasefile.mk r.payload.title r.payload.description r.payload.tags)

/-- What the workflow leaves behind: the casefile, with the session linked if there is one. -/
def Stored (a : CasefileWithSessionCreated) (s : Store) : Prop :=
  ∃ c, s.casefile? a.casefileId = some c ∧ ∀ id, a.sessionId = some id → id ∈ c.sessionIds

/-- Once the casefile is there, the later steps do not fail. -/
theorem createCasefileWithSession_succeeds {r : Request CreateCasefileWithSession}
    (h : (Text.trim r.payload.title).isEmpty = false) :
    (createCasefileWithSession Store.services r).Succeeds (fun _ => True) Stored := by
  unfold createCasefileWithSession
  refine .bind (part_succeeds r _ _ _) fun create => .of_fact fun hcreate => ?_
  refine .bind (Store.createCasefile_succeeds (by rw [hcreate]; exact h)) fun created => ?_
  simp only
  split
  · -- without a session the casefile is all
    refine ServiceCall.succeeds_pure fun s hs => ?_
    obtain ⟨c, hc⟩ := Option.isSome_iff_exists.1 hs
    exact ⟨c, hc, fun id hid => by cases hid⟩
  · refine .bind (part_succeeds r _ _ _) fun start => .of_fact fun _ => ?_
    refine .bind (Store.createSession_succeeds (metadataCasefile?_withMetadata start _))
      fun started => ?_
    refine .bind (part_succeeds r _ _ _) fun link => .of_fact fun hlink => ?_
    have hadd := Store.addSession_succeeds (r := link)
    rw [hlink] at hadd
    refine .bind hadd fun _ => ServiceCall.succeeds_pure fun s hs => ?_
    obtain ⟨c, hc, hmem⟩ := hs
    refine ⟨c, hc, fun id hid => ?_⟩
    cases hid
    exact hmem

/-- On a blank title the first step fails, with nothing stored. -/
theorem createCasefileWithSession_of_blank {r : Request CreateCasefileWithSession}
    (h : (Text.trim r.payload.title).isEmpty = true) (d : Option Nat) (e : Environment Store) :
    (createCasefileWithSession Store.services r).run d e =
      (some (.error (.invalid "title must not be blank")), { e with unused := e.unused + 2 }) := by
  have hfirst := Store.createCasefile_of_blank (r := firstPart r (Identifier.request e.unused)) h
  unfold firstPart at hfirst
  unfold createCasefileWithSession
  rw [ServiceCall.run_bind_apply, part_apply]
  simp only
  rw [ServiceCall.run_bind_apply, hfirst]

/-- Where the first step succeeds, so does the workflow. -/
theorem succeeds_of_firstPart {r : Request CreateCasefileWithSession} {id : String}
    {d : Option Nat} {e e' : Environment Store} {a : CasefileCreated}
    (h : (Store.services.createCasefile (firstPart r id)).run d e = (some (.ok a), e')) :
    (createCasefileWithSession Store.services r).Succeeds (fun _ => True) Stored := by
  apply createCasefileWithSession_succeeds
  cases hblank : (Text.trim r.payload.title).isEmpty with
  | false => rfl
  | true =>
    rw [Store.createCasefile_of_blank (r := firstPart r id) hblank] at h
    cases h

/-- **The workflow needs no rollback.** Over the store it fails only before it stores anything. -/
theorem createCasefileWithSession_atomic (r : Request CreateCasefileWithSession) :
    (createCasefileWithSession Store.services r).Atomic := by
  cases h : (Text.trim r.payload.title).isEmpty with
  | true =>
    intro d e
    exact ⟨_, _, createCasefileWithSession_of_blank h d e, fun _ _ => rfl⟩
  | false => exact (createCasefileWithSession_succeeds h).atomic

end CasefileHub.Workflow
