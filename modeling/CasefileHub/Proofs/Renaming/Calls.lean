import CasefileHub.Proofs.Dispatch.Promptness
import CasefileHub.Proofs.Renaming.Values
/-!
# Calls up to renaming

On matching stores, corresponding requests to the services fail with the same error up to renaming,
or both succeed with the same answer up to renaming, and so do requests of the same content for the
workflow. For that the renaming has to map the numbers that one call uses up to those of the other:

    s.Matches ρ s' → Corresponds ρ n n' q q' → the outcomes are renamed   (Matches.perform)
    corresponding requests, matching stores → the calls are renamed        (serve_renamed)
    requests of the same content, matching stores → the workflows are      (workflow_renamed)
-/

namespace CasefileHub

variable {ρ : Renaming}

/-- The renaming maps the identifiers of some numbers in a row to those of others. -/
def Renaming.Shifts (ρ : Renaming) (n n' count : Nat) : Prop :=
  ∀ kind : RecordKind, ∀ k < count,
    ρ.record kind (kind.identifier (n + k)) = kind.identifier (n' + k)

/-- Without the first of the numbers. -/
theorem Renaming.Shifts.drop {n n' count : Nat} (h : ρ.Shifts n n' (1 + count)) :
    ρ.Shifts (n + 1) (n' + 1) count := by
  intro kind k hk
  have hnext := h kind (1 + k) (by omega)
  rwa [← Nat.add_assoc, ← Nat.add_assoc] at hnext

/-- The same outcome of a call up to renaming. -/
inductive OutcomeRenamed (ρ : Renaming) : Except ErrorInfo Json → Except ErrorInfo Json → Prop
  | error {e e' : ErrorInfo} (h : e.Renamed ρ e') : OutcomeRenamed ρ (.error e) (.error e')
  | ok {v v' : Json} (h : v.Renamed ρ v') : OutcomeRenamed ρ (.ok v) (.ok v')

namespace Store

variable {s s' s₁ s₁' : Store} {n n' : Nat} {now now' : Timestamp} {q q' : ServiceRequest}
  {a a' : ServiceAnswer}

/-! ## Operations -/

theorem cases_of_rel {α β : Type} {R : α → β → Prop} {o : Option α} {o' : Option β}
    (h : Option.Rel R o o') : (o = none ∧ o' = none) ∨ ∃ a b, o = some a ∧ o' = some b := by
  cases h with
  | none => exact .inl ⟨rfl, rfl⟩
  | some _ => exact .inr ⟨_, _, rfl, rfl⟩

/-- Corresponding effects have the same answers up to renaming. -/
theorem Matches.answers (h : s.Matches ρ s') (hq : Corresponds ρ n n' q q')
    (heffect : Effect n now s q a s₁) (heffect' : Effect n' now' s' q' a' s₁') :
    a.toJson.Renamed ρ a'.toJson := by
  cases hq with
  | createCasefile hnew hpayload huser =>
    cases heffect
    cases heffect'
    rw [hpayload, ← hnew]
    exact .ofMembers (.cons (.record .casefile _) (.cons (.time _ _) (.cons (.same _) .nil)))
  | getCasefile hcasefile =>
    cases heffect with
    | casefileRead hc =>
      cases heffect' with
      | casefileRead hc' =>
        rw [hcasefile] at hc'
        exact .ofMembers (.cons (h.casefile hc hc').toJson .nil)
  | @addSession r r' hcasefile hsession =>
    cases heffect with
    | sessionAdded hc ht =>
      cases heffect' with
      | sessionAdded hc' ht' =>
        rw [hcasefile] at hc'
        have hlinked := matches_linked (h.casefile hc hc') r.payload.sessionId now now'
        rw [hcasefile, hsession, hlinked.sessionIds, List.length_map]
        exact .ofMembers (.cons (.record .casefile _) (.cons (.same _)
          (.cons (.record .toolSession _) .nil)))
  | createSession hnew hpayload huser hscope =>
    cases heffect
    cases heffect'
    rw [hscope, ← hnew]
    exact .ofMembers (.cons (Json.renamed_ofOption .casefile _) (.cons (.time _ _)
      (.cons (.record .toolSession _) .nil)))
  | @processChat r r' hpayload hsession =>
    cases heffect with
    | @chatReply _ id t hid ht =>
      cases heffect' with
      | @chatReply _ id' t' hid' ht' =>
        obtain rfl : id' = ρ.session id := by
          rw [hid, hid'] at hsession
          exact Option.some.inj hsession
        have hsaid := congrArg List.length
          (matches_answered (h.session ht ht') r.payload.message now now').messages
        rw [List.length_map, List.length_map] at hsaid
        have hreply : (reply r.payload.message now').said = (reply r.payload.message now).said := rfl
        rw [hpayload, hsaid]
        exact .ofMembers (.cons (.same _) (.cons (ChatMessage.toJson_renamed hreply)
          (.cons (.record .toolSession _) .nil)))

theorem perform_createSession_of_missing {r : Request CreateSession} {id : String}
    (hr : r.metadataCasefile? = some id) (hc : s.casefile? id = none) :
    s.perform n now (.createSession r) = .error (.notFound .casefile id) := by
  have hcontains : s.casefiles.contains id = false := by
    show (s.casefile? id).isSome = false
    rw [hc]
    rfl
  simp only [Store.perform, Store.createSession, hr, Option.filter, hcontains, Bool.not_false,
    if_true]
  rfl

/-- Corresponding requests fail alike, or both have their effects. -/
theorem Matches.perform (h : s.Matches ρ s') (hq : Corresponds ρ n n' q q') (now now' : Timestamp) :
    (∃ err err', s.perform n now q = .error err ∧ s'.perform n' now' q' = .error err' ∧
      err.info.Renamed ρ err'.info) ∨
    ∃ a a' s₁ s₁', Effect n now s q a s₁ ∧ Effect n' now' s' q' a' s₁' := by
  cases hq with
  | @createCasefile r r' hnew hpayload huser =>
    by_cases htitle : Text.trim r.payload.title = ""
    · have htitle' : Text.trim r'.payload.title = "" := by rw [hpayload, htitle]
      refine .inl ⟨.invalid "title must not be blank", .invalid "title must not be blank", ?_, ?_,
        .same _⟩
      · simp only [Store.perform, createCasefile_eq, if_pos htitle]; rfl
      · simp only [Store.perform, createCasefile_eq, if_pos htitle']; rfl
    · have htitle' : Text.trim r'.payload.title ≠ "" := by rwa [hpayload]
      exact .inr ⟨_, _, _, _, .casefileCreated htitle, .casefileCreated htitle'⟩
  | @getCasefile r r' hcasefile =>
    rcases cases_of_rel (h.casefiles r.payload.casefileId) with ⟨hc, hc'⟩ | ⟨c, c', hc, hc'⟩
    · rw [← hcasefile] at hc'
      refine .inl ⟨.notFound .casefile r.payload.casefileId,
        .notFound .casefile r'.payload.casefileId, ?_, ?_, hcasefile ▸ .missing .casefile _⟩
      · simp only [Store.perform, Store.getCasefile, hc]; rfl
      · simp only [Store.perform, Store.getCasefile, hc']; rfl
    · rw [← hcasefile] at hc'
      exact .inr ⟨_, _, _, _, .casefileRead hc, .casefileRead hc'⟩
  | @addSession r r' hcasefile hsession =>
    rcases cases_of_rel (h.sessions r.payload.sessionId) with ⟨ht, ht'⟩ | ⟨t, t', ht, ht'⟩
    · rw [← hsession] at ht'
      refine .inl ⟨.notFound .toolSession r.payload.sessionId,
        .notFound .toolSession r'.payload.sessionId, ?_, ?_, hsession ▸ .missing .toolSession _⟩
      · simp only [Store.perform, Store.addSession, ht]; rfl
      · simp only [Store.perform, Store.addSession, ht']; rfl
    · rw [← hsession] at ht'
      rcases cases_of_rel (h.casefiles r.payload.casefileId) with ⟨hc, hc'⟩ | ⟨c, c', hc, hc'⟩
      · rw [← hcasefile] at hc'
        refine .inl ⟨.notFound .casefile r.payload.casefileId,
          .notFound .casefile r'.payload.casefileId, ?_, ?_, hcasefile ▸ .missing .casefile _⟩
        · simp only [Store.perform, Store.addSession, ht, hc]; rfl
        · simp only [Store.perform, Store.addSession, ht', hc']; rfl
      · rw [← hcasefile] at hc'
        exact .inr ⟨_, _, _, _, .sessionAdded hc ht, .sessionAdded hc' ht'⟩
  | @createSession r r' hnew hpayload huser hscope =>
    cases hmetadata : r.metadataCasefile? with
    | none =>
      have hscope' : r'.metadataCasefile? = none := by rw [hscope, hmetadata]; rfl
      refine .inr ⟨_, _, _, _, .sessionCreated ?_, .sessionCreated ?_⟩
      · rw [hmetadata]; simp
      · rw [hscope']; simp
    | some id =>
      have hscope' : r'.metadataCasefile? = some (ρ.casefile id) := by rw [hscope, hmetadata]; rfl
      rcases cases_of_rel (h.casefiles id) with ⟨hc, hc'⟩ | ⟨c, c', hc, hc'⟩
      · refine .inl ⟨.notFound .casefile id, .notFound .casefile (ρ.casefile id), ?_, ?_,
          .missing .casefile _⟩
        · exact perform_createSession_of_missing hmetadata hc
        · exact perform_createSession_of_missing hscope' hc'
      · refine .inr ⟨_, _, _, _, .sessionCreated ?_, .sessionCreated ?_⟩
        · rw [hmetadata]; rintro _ ⟨⟩; rw [hc]; rfl
        · rw [hscope']; rintro _ ⟨⟩; rw [hc']; rfl
  | @processChat r r' hpayload hsession =>
    cases hid : r.sessionId with
    | none =>
      have hid' : r'.sessionId = none := by rw [hsession, hid]; rfl
      refine .inl ⟨.invalid "chat requires a session_id", .invalid "chat requires a session_id", ?_,
        ?_, .same _⟩
      · simp only [Store.perform, Store.processChat, hid]; rfl
      · simp only [Store.perform, Store.processChat, hid']; rfl
    | some id =>
      have hid' : r'.sessionId = some (ρ.session id) := by rw [hsession, hid]; rfl
      rcases cases_of_rel (h.sessions id) with ⟨ht, ht'⟩ | ⟨t, t', ht, ht'⟩
      · refine .inl ⟨.notFound .toolSession id, .notFound .toolSession (ρ.session id), ?_, ?_,
          .missing .toolSession _⟩
        · simp only [Store.perform, Store.processChat, hid, ht]; rfl
        · simp only [Store.perform, Store.processChat, hid', ht']; rfl
      · exact .inr ⟨_, _, _, _, .chatReply hid ht, .chatReply hid' ht'⟩

/-! ## Services -/

/-- The call answers at once, and uses up so many numbers. -/
def Uses (call : ServiceCall Store Json) (count : Nat) : Prop :=
  ∀ e, ∃ result s₁, ∀ d,
    call.run d e = (some result, { e with state := s₁, unused := e.unused + count })

/-- On matching stores both calls come to the same up to renaming, if the renaming maps the numbers
that the one may use to those of the other. -/
def CallsRenamed (ρ : Renaming) (count : Nat) (call call' : ServiceCall Store Json) : Prop :=
  ∀ e e', ρ.Shifts e.unused e'.unused count → e.state.Matches ρ e'.state →
    ∃ result result' e₁ e₁', (∀ d, call.run d e = (some result, e₁)) ∧
      (∀ d, call'.run d e' = (some result', e₁')) ∧
      OutcomeRenamed ρ (result.mapError ServiceError.info) (result'.mapError ServiceError.info) ∧
      e₁.state.Matches ρ e₁'.state

theorem serve_uses (q : ServiceRequest) :
    Uses (ServiceAnswer.toJson <$> services.serve q) q.numbers := by
  intro e
  cases hp : e.state.perform e.unused e.now q with
  | ok p =>
    have heffect : Effect e.unused e.now e.state q p.1 p.2 := effect_of_perform hp
    exact ⟨_, _, fun d => ServiceCall.run_map_of_run (serve_of_effect heffect d) _⟩
  | error err =>
    exact ⟨_, e.state, fun d => ServiceCall.run_map_of_run (serve_of_failure hp d) _⟩

theorem serve_renamed (hq : ∀ n n', ρ.Shifts n n' q.numbers → Corresponds ρ n n' q q') :
    CallsRenamed ρ q.numbers (ServiceAnswer.toJson <$> services.serve q)
      (ServiceAnswer.toJson <$> services.serve q') := by
  intro e e' hshifts hmatch
  have hcorresponds := hq _ _ hshifts
  rcases hmatch.perform hcorresponds e.now e'.now with
    ⟨err, err', herr, herr', hrenamed⟩ | ⟨a, a', s₁, s₁', heffect, heffect'⟩
  · exact ⟨_, _, _, _, fun d => ServiceCall.run_map_of_run (serve_of_failure herr d) _,
      fun d => ServiceCall.run_map_of_run (serve_of_failure herr' d) _, .error hrenamed, hmatch⟩
  · exact ⟨_, _, _, _, fun d => ServiceCall.run_map_of_run (serve_of_effect heffect d) _,
      fun d => ServiceCall.run_map_of_run (serve_of_effect heffect' d) _,
      .ok (hmatch.answers hcorresponds heffect heffect'),
      hmatch.effect hcorresponds heffect heffect'⟩

end Store

/-! ## The workflow -/

namespace Workflow

open Store (Uses CallsRenamed)

variable {r r' : Request CreateCasefileWithSession}

/-- How many numbers the workflow uses up. -/
def numbers (p : CreateCasefileWithSession) : Nat :=
  if Text.trim p.title ≠ "" ∧ p.autoStartSession = true then 5 else 2

theorem workflow_uses (r : Request CreateCasefileWithSession) :
    Uses (Payload.toJson <$> createCasefileWithSession Store.services r) (numbers r.payload) := by
  intro e
  by_cases htitle : Text.trim r.payload.title = ""
  · have hblank := createCasefileWithSession_of_blank (String.isEmpty_iff.2 htitle)
    rw [numbers, if_neg fun hn => hn.1 htitle]
    exact ⟨_, e.state, fun d => ServiceCall.run_map_of_run (hblank d e) _⟩
  · cases hauto : r.payload.autoStartSession with
    | false =>
      obtain ⟨s₁, -, hrun⟩ := run_of_declined htitle hauto e
      rw [numbers, if_neg (by simp [hauto])]
      exact ⟨_, s₁, fun d => ServiceCall.run_map_of_run (hrun d) _⟩
    | true =>
      obtain ⟨s₃, -, hrun⟩ := run_of_started htitle hauto e
      rw [numbers, if_pos ⟨htitle, hauto⟩]
      exact ⟨_, s₃, fun d => ServiceCall.run_map_of_run (hrun d) _⟩

theorem workflow_renamed (hpayload : r'.payload = r.payload) (huser : r'.userId = r.userId) :
    CallsRenamed ρ (numbers r.payload)
      (Payload.toJson <$> createCasefileWithSession Store.services r)
      (Payload.toJson <$> createCasefileWithSession Store.services r') := by
  intro e e' hshifts hmatch
  by_cases htitle : Text.trim r.payload.title = ""
  · have hblank := createCasefileWithSession_of_blank (String.isEmpty_iff.2 htitle)
    have hblank' := createCasefileWithSession_of_blank (r := r')
      (String.isEmpty_iff.2 (by rw [hpayload, htitle]))
    exact ⟨_, _, _, _, fun d => ServiceCall.run_map_of_run (hblank d e) _,
      fun d => ServiceCall.run_map_of_run (hblank' d e') _, .error (.same _), hmatch⟩
  · have htitle' : Text.trim r'.payload.title ≠ "" := by rwa [hpayload]
    cases hauto : r.payload.autoStartSession with
    | false =>
      rw [numbers, if_neg (by simp [hauto])] at hshifts
      have hnew : ρ.casefile (Identifier.casefile (e.unused + 1)) =
          Identifier.casefile (e'.unused + 1) := hshifts .casefile 1 (by decide)
      obtain ⟨s₁, hcreated, hrun⟩ := run_of_declined htitle hauto e
      obtain ⟨s₁', hcreated', hrun'⟩ := run_of_declined htitle' (by rw [hpayload, hauto]) e'
      rw [hpayload, huser] at hcreated'
      refine ⟨_, _, _, _, fun d => ServiceCall.run_map_of_run (hrun d) _,
        fun d => ServiceCall.run_map_of_run (hrun' d) _, .ok ?_,
        hcreated.matching hcreated' hmatch hnew⟩
      rw [← hnew]
      exact .ofMembers (.cons (.record .casefile _) (.cons (.same _) (.cons (.same _) .nil)))
    | true =>
      rw [numbers, if_pos ⟨htitle, hauto⟩] at hshifts
      have hcasefile : ρ.casefile (Identifier.casefile (e.unused + 1)) =
          Identifier.casefile (e'.unused + 1) := hshifts .casefile 1 (by decide)
      have hsession : ρ.session (Identifier.session (e.unused + 3)) =
          Identifier.session (e'.unused + 3) := hshifts .toolSession 3 (by decide)
      obtain ⟨s₃, hcomposed, hrun⟩ := run_of_started htitle hauto e
      obtain ⟨s₃', hcomposed', hrun'⟩ := run_of_started htitle' (by rw [hpayload, hauto]) e'
      rw [hpayload, huser] at hcomposed'
      refine ⟨_, _, _, _, fun d => ServiceCall.run_map_of_run (hrun d) _,
        fun d => ServiceCall.run_map_of_run (hrun' d) _, .ok ?_,
        hcomposed.matching hcomposed' hmatch hcasefile hsession⟩
      rw [← hcasefile, ← hsession]
      have hlink : Json.Renamed ρ
          (ResourceLink.mk (Identifier.casefile (e.unused + 1))
            (Identifier.session (e.unused + 3))).toJson
          (ResourceLink.mk (ρ.casefile (Identifier.casefile (e.unused + 1)))
            (ρ.session (Identifier.session (e.unused + 3)))).toJson :=
        .ofMembers (.cons (.record .toolSession _) (.cons (.record .casefile _) .nil))
      exact .ofMembers (.cons (.record .casefile _) (.cons (.arr (.cons hlink .nil))
        (.cons (.record .toolSession _) .nil)))

end Workflow

end CasefileHub
