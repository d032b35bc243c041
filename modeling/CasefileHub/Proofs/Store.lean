import CasefileHub.Proofs.Timed
import CasefileHub.Store
/-!
# Services over the store

A service of the store that fails leaves the store as it is. None of them waits, so each answers
whatever the deadline is:

    Store.services.createCasefile r, … are atomic              (createCasefile_atomic, …)
-/

namespace CasefileHub.Store

variable {α : Type}

/-! ## Calls -/

theorem call_apply (f : Timestamp → Store → Except ServiceError (α × Store)) (d : Option Nat)
    (e : Environment Store) :
    (call f).run d e =
      match f e.now e.state with
      | .ok (a, s) => (some (.ok a), { e with state := s })
      | .error err => (some (.error err), e) := by
  show (some (match f e.now e.state with | .ok (a, s) => _ | .error err => _ :
    Except ServiceError α × Environment Store).1, _) = _
  cases f e.now e.state <;> rfl

theorem fresh_apply (d : Option Nat) (e : Environment Store) :
    fresh.run d e = (some (.ok e.unused), { e with unused := e.unused + 1 }) := rfl

/-- An operation has no new store if it fails. -/
theorem call_atomic (f : Timestamp → Store → Except ServiceError (α × Store)) :
    (call f).Atomic := by
  intro d e
  rw [call_apply]
  cases f e.now e.state with
  | ok p => exact ⟨.ok p.1, _, rfl, fun err herr => by cases herr⟩
  | error err => exact ⟨.error err, e, rfl, fun _ _ => rfl⟩

theorem fresh_bind_atomic {f : Nat → ServiceCall Store α} (h : ∀ n, (f n).Atomic) :
    (fresh >>= f).Atomic :=
  .lift_bind (Timed.keeps_step fun _ => rfl) h

/-! ## Services -/

theorem createCasefile_atomic (r : Request CreateCasefile) : (services.createCasefile r).Atomic :=
  fresh_bind_atomic fun _ => call_atomic _

theorem getCasefile_atomic (r : Request GetCasefile) : (services.getCasefile r).Atomic :=
  call_atomic fun _ s => (s.getCasefile r).map (·, s)

theorem addSession_atomic (r : Request AddSession) : (services.addSession r).Atomic :=
  call_atomic fun now s => s.addSession now r

theorem createSession_atomic (r : Request CreateSession) : (services.createSession r).Atomic :=
  fresh_bind_atomic fun _ => call_atomic _

theorem processChat_atomic (r : Request Chat) : (services.processChat r).Atomic :=
  call_atomic fun now s => s.processChat now r

theorem createCasefile_of_blank {r : Request CreateCasefile}
    (h : (Text.trim r.payload.title).isEmpty = true) (d : Option Nat) (e : Environment Store) :
    (services.createCasefile r).run d e =
      (some (.error (.invalid "title must not be blank")), { e with unused := e.unused + 1 }) := by
  show (fresh >>= fun n => call fun now s => s.createCasefile (Identifier.casefile n) now r).run
    d e = _
  rw [ServiceCall.run_bind_apply, fresh_apply]
  simp only [call_apply, Store.createCasefile, h, if_true]

/-! ## Success -/

theorem call_succeeds {f : Timestamp → Store → Except ServiceError (α × Store)} {P : Store → Prop}
    {Q : α → Store → Prop}
    (h : ∀ now s, P s → ∃ a s', f now s = .ok (a, s') ∧ Q a s') : (call f).Succeeds P Q := by
  intro d e hp
  obtain ⟨a, s', hf, hq⟩ := h e.now e.state hp
  refine ⟨a, { e with state := s' }, ?_, hq⟩
  rw [call_apply, hf]

theorem fresh_bind_succeeds {f : Nat → ServiceCall Store α} {P : Store → Prop}
    {Q : α → Store → Prop} (h : ∀ n, (f n).Succeeds P Q) : (fresh >>= f).Succeeds P Q :=
  .bind (Q := fun _ => P) (fun _ e hp => ⟨_, _, fresh_apply _ e, hp⟩) h

/-- A title that is not blank is all that a new casefile needs. -/
theorem createCasefile_succeeds {r : Request CreateCasefile}
    (h : (Text.trim r.payload.title).isEmpty = false) :
    (services.createCasefile r).Succeeds (fun _ => True)
      fun created s => (s.casefile? created.casefileId).isSome := by
  refine fresh_bind_succeeds fun n => call_succeeds fun now s _ => ?_
  simp only [Store.createCasefile, h]
  refine ⟨_, _, rfl, ?_⟩
  simp [casefile?, Table.get?_insert]

/-- A session is created in a casefile that is there. -/
theorem createSession_succeeds {r : Request CreateSession} {casefileId : String}
    (hr : r.metadataCasefile? = some casefileId) :
    (services.createSession r).Succeeds (fun s => (s.casefile? casefileId).isSome)
      fun created s => (s.casefile? casefileId).isSome ∧
        (s.session? created.sessionId).isSome := by
  refine fresh_bind_succeeds fun n => call_succeeds fun now s hs => ?_
  have hnone : (some casefileId).filter (!s.casefiles.contains ·) = none := by
    simp [Option.filter, Table.contains, show (s.casefiles.get? casefileId).isSome from hs]
  simp only [Store.createSession, hr, hnone]
  refine ⟨_, _, rfl, hs, ?_⟩
  simp [session?, Table.get?_insert]

/-- A session is linked to a casefile if both are there, and is then among its sessions. -/
theorem addSession_succeeds {r : Request AddSession} :
    (services.addSession r).Succeeds
      (fun s => (s.casefile? r.payload.casefileId).isSome ∧
        (s.session? r.payload.sessionId).isSome)
      fun _ s => ∃ c, s.casefile? r.payload.casefileId = some c ∧
        r.payload.sessionId ∈ c.sessionIds := by
  refine call_succeeds (f := fun now s => s.addSession now r) fun now s hs => ?_
  obtain ⟨casefile, hc⟩ := Option.isSome_iff_exists.1 hs.1
  obtain ⟨session, hses⟩ := Option.isSome_iff_exists.1 hs.2
  simp only [Store.addSession, hc, hses]
  refine ⟨_, _, rfl, linked casefile r.payload.sessionId now, ?_, ?_⟩
  · simp [casefile?, Table.get?_insert]
  · unfold linked
    split
    · assumption
    · simp

end CasefileHub.Store
