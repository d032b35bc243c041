import CasefileHub.Proofs.Store.Integrity
import Mathlib.Logic.Equiv.Basic
/-!
# Stores up to renaming

A renaming maps the identifiers of casefiles and those of sessions, each one to one. Two stores match
under a renaming if each record of one is in the other under its new identifier, with the same
content, where identifiers in the content are renamed and times are not compared. Operations do not
look into identifiers and times: performed in matching stores, corresponding requests have matching
effects.

    s.Sound → ρ.Fixes s → Matches ρ s s                                      (Matches.refl)
    Matches ρ s s' → corresponding effects lead to matching stores            (Matches.effect)
    an exchange of identifiers that have not been used fixes the store       (exchange_fixes)
-/

namespace CasefileHub

/-- New identifiers for all casefiles and for all sessions. -/
structure Renaming where
  casefile : Equiv.Perm String
  session : Equiv.Perm String

/-- The identifiers of two casefiles exchanged, and those of two sessions. -/
def Renaming.exchange (k k' m m' : Nat) : Renaming where
  casefile := Equiv.swap (Identifier.casefile k) (Identifier.casefile k')
  session := Equiv.swap (Identifier.session m) (Identifier.session m')

/-! ## Records -/

/-- The same casefile under renamed identifiers, perhaps of other times. -/
structure Casefile.Matches (ρ : Renaming) (c c' : Casefile) : Prop where
  id : c'.id = ρ.casefile c.id
  title : c'.title = c.title
  description : c'.description = c.description
  tags : c'.tags = c.tags
  owner : c'.owner = c.owner
  sessionIds : c'.sessionIds = c.sessionIds.map ρ.session

/-- Who said what. -/
def ChatMessage.said (m : ChatMessage) : ChatRole × String := (m.role, m.content)

/-- The same session under renamed identifiers, perhaps of other times. -/
structure ToolSession.Matches (ρ : Renaming) (t t' : ToolSession) : Prop where
  id : t'.id = ρ.session t.id
  casefileId : t'.casefileId = t.casefileId.map ρ.casefile
  userId : t'.userId = t.userId
  title : t'.title = t.title
  messages : t'.messages.map ChatMessage.said = t.messages.map ChatMessage.said

/-! ## Stores -/

/-- The same records under renamed identifiers, perhaps of other times. -/
structure Store.Matches (ρ : Renaming) (s s' : Store) : Prop where
  casefiles : ∀ id, Option.Rel (Casefile.Matches ρ) (s.casefile? id) (s'.casefile? (ρ.casefile id))
  sessions : ∀ id, Option.Rel (ToolSession.Matches ρ) (s.session? id) (s'.session? (ρ.session id))

namespace Renaming

/-- The records of the store keep their identifiers. -/
structure Fixes (ρ : Renaming) (s : Store) : Prop where
  casefile : ∀ {id}, (s.casefile? id).isSome → ρ.casefile id = id
  session : ∀ {id}, (s.session? id).isSome → ρ.session id = id

variable {ρ : Renaming} {s : Store}

theorem fixes_empty (ρ : Renaming) : ρ.Fixes {} where
  casefile hid := by cases hid
  session hid := by cases hid

/-- Identifiers that have not been used can be exchanged. -/
theorem exchange_fixes {k k' m m' : Nat} (hk : s.Fresh k) (hk' : s.Fresh k') (hm : s.Fresh m)
    (hm' : s.Fresh m') : (exchange k k' m m').Fixes s where
  casefile := by
    intro id hid
    refine Equiv.swap_apply_of_ne_of_ne ?_ ?_
    · rintro rfl
      rw [hk.casefile?_eq_none] at hid
      cases hid
    · rintro rfl
      rw [hk'.casefile?_eq_none] at hid
      cases hid
  session := by
    intro id hid
    refine Equiv.swap_apply_of_ne_of_ne ?_ ?_
    · rintro rfl
      rw [hm.session?_eq_none] at hid
      cases hid
    · rintro rfl
      rw [hm'.session?_eq_none] at hid
      cases hid

@[simp] theorem exchange_casefile (k k' m m' : Nat) :
    (exchange k k' m m').casefile (Identifier.casefile k) = Identifier.casefile k' :=
  Equiv.swap_apply_left _ _

@[simp] theorem exchange_session (k k' m m' : Nat) :
    (exchange k k' m m').session (Identifier.session m) = Identifier.session m' :=
  Equiv.swap_apply_left _ _

/-- A renaming that fixes the records maps an identifier to one of them only if it was that one. -/
theorem Fixes.casefile_of_isSome (h : ρ.Fixes s) {id : String}
    (hid : (s.casefile? (ρ.casefile id)).isSome) : ρ.casefile id = id :=
  ρ.casefile.injective (h.casefile hid)

theorem Fixes.session_of_isSome (h : ρ.Fixes s) {id : String}
    (hid : (s.session? (ρ.session id)).isSome) : ρ.session id = id :=
  ρ.session.injective (h.session hid)

end Renaming

/-- The request under another id of its own. -/
def ServiceRequest.withId (q : ServiceRequest) (id : String) : ServiceRequest :=
  match q with
  | .createCasefile r => .createCasefile { r with requestId := id }
  | .getCasefile r => .getCasefile { r with requestId := id }
  | .addSession r => .addSession { r with requestId := id }
  | .createSession r => .createSession { r with requestId := id }
  | .processChat r => .processChat { r with requestId := id }

namespace Store

variable {ρ : Renaming} {s s' : Store} {id : String} {c c' : Casefile} {t t' : ToolSession}

/-! ## Matching stores -/

theorem CasefileSound.matches_self (h : CasefileSound s id c) (hfix : ρ.Fixes s)
    (hc : s.casefile? id = some c) : c.Matches ρ c where
  id := by rw [h.id_eq, hfix.casefile (by rw [hc]; rfl)]
  title := rfl
  description := rfl
  tags := rfl
  owner := rfl
  sessionIds := by
    have hsame : ∀ sessionId ∈ c.sessionIds, ρ.session sessionId = sessionId :=
      fun sessionId hmem => hfix.session (h.listed sessionId hmem)
    rw [List.map_congr_left hsame, List.map_id']

theorem SessionSound.matches_self (h : SessionSound s id t) (hfix : ρ.Fixes s)
    (ht : s.session? id = some t) : t.Matches ρ t where
  id := by rw [h.id_eq, hfix.session (by rw [ht]; rfl)]
  casefileId := by
    cases hscope : t.casefileId with
    | none => rfl
    | some casefileId => rw [Option.map_some, hfix.casefile (h.scope casefileId hscope)]
  userId := rfl
  title := rfl
  messages := rfl

/-- A sound store matches itself under a renaming of what is not in it. -/
theorem Matches.refl (h : s.Sound) (hfix : ρ.Fixes s) : Matches ρ s s where
  casefiles id := by
    cases hc : s.casefile? id with
    | some c =>
      rw [hfix.casefile (by rw [hc]; rfl), hc]
      exact .some ((h.casefiles id c hc).matches_self hfix hc)
    | none =>
      cases hc' : s.casefile? (ρ.casefile id) with
      | none => exact .none
      | some c' =>
        rw [hfix.casefile_of_isSome (by rw [hc']; rfl), hc] at hc'
        cases hc'
  sessions id := by
    cases ht : s.session? id with
    | some t =>
      rw [hfix.session (by rw [ht]; rfl), ht]
      exact .some ((h.sessions id t ht).matches_self hfix ht)
    | none =>
      cases ht' : s.session? (ρ.session id) with
      | none => exact .none
      | some t' =>
        rw [hfix.session_of_isSome (by rw [ht']; rfl), ht] at ht'
        cases ht'

theorem Matches.putCasefile (h : Matches ρ s s') (hc : c.Matches ρ c') :
    Matches ρ (s.putCasefile id c) (s'.putCasefile (ρ.casefile id) c') where
  casefiles m := by
    rw [casefile?_putCasefile, casefile?_putCasefile]
    simp only [ρ.casefile.apply_eq_iff_eq]
    split
    · exact .some hc
    · exact h.casefiles m
  sessions := h.sessions

theorem Matches.putSession (h : Matches ρ s s') (ht : t.Matches ρ t') :
    Matches ρ (s.putSession id t) (s'.putSession (ρ.session id) t') where
  casefiles := h.casefiles
  sessions m := by
    rw [session?_putSession, session?_putSession]
    simp only [ρ.session.apply_eq_iff_eq]
    split
    · exact .some ht
    · exact h.sessions m

/-- A record and the one in its place match. -/
theorem Matches.casefile (h : Matches ρ s s') (hc : s.casefile? id = some c)
    (hc' : s'.casefile? (ρ.casefile id) = some c') : c.Matches ρ c' := by
  have hrel := h.casefiles id
  rw [hc, hc'] at hrel
  cases hrel
  assumption

theorem Matches.session (h : Matches ρ s s') (ht : s.session? id = some t)
    (ht' : s'.session? (ρ.session id) = some t') : t.Matches ρ t' := by
  have hrel := h.sessions id
  rw [ht, ht'] at hrel
  cases hrel
  assumption

/-! ## Matching changes -/

theorem matches_linked (h : c.Matches ρ c') (sessionId : String) (now now' : Timestamp) :
    (linked c sessionId now).Matches ρ (linked c' (ρ.session sessionId) now') := by
  have hmem : ρ.session sessionId ∈ c'.sessionIds ↔ sessionId ∈ c.sessionIds := by
    rw [h.sessionIds, List.mem_map]
    constructor
    · rintro ⟨other, hother, heq⟩
      exact ρ.session.injective heq ▸ hother
    · exact fun hold => ⟨sessionId, hold, rfl⟩
  unfold linked
  by_cases hold : sessionId ∈ c.sessionIds
  · rw [if_pos hold, if_pos (hmem.2 hold)]
    exact h
  · rw [if_neg hold, if_neg (mt hmem.1 hold)]
    exact { h with sessionIds := by simp [h.sessionIds] }

theorem matches_inCasefile (h : t.Matches ρ t') (casefileId : String) :
    (inCasefile t casefileId).Matches ρ (inCasefile t' (ρ.casefile casefileId)) :=
  { h with casefileId := rfl }

theorem matches_answered (h : t.Matches ρ t') (text : String) (now now' : Timestamp) :
    (answered t text now).Matches ρ (answered t' text now') := by
  refine { h with messages := ?_ }
  simp only [answered, List.map_append, h.messages]
  rfl

/-! ## Corresponding requests -/

/-- Requests of the same content under renamed identifiers. What they create, with the identifiers of
two numbers, is renamed as well. -/
inductive Corresponds (ρ : Renaming) (n n' : Nat) : ServiceRequest → ServiceRequest → Prop
  | createCasefile {r r' : Request CreateCasefile}
      (hnew : ρ.casefile (Identifier.casefile n) = Identifier.casefile n')
      (hpayload : r'.payload = r.payload) (huser : r'.userId = r.userId) :
      Corresponds ρ n n' (.createCasefile r) (.createCasefile r')
  | getCasefile {r r' : Request GetCasefile}
      (hcasefile : r'.payload.casefileId = ρ.casefile r.payload.casefileId) :
      Corresponds ρ n n' (.getCasefile r) (.getCasefile r')
  | addSession {r r' : Request AddSession}
      (hcasefile : r'.payload.casefileId = ρ.casefile r.payload.casefileId)
      (hsession : r'.payload.sessionId = ρ.session r.payload.sessionId) :
      Corresponds ρ n n' (.addSession r) (.addSession r')
  | createSession {r r' : Request CreateSession}
      (hnew : ρ.session (Identifier.session n) = Identifier.session n')
      (hpayload : r'.payload = r.payload) (huser : r'.userId = r.userId)
      (hscope : r'.metadataCasefile? = r.metadataCasefile?.map ρ.casefile) :
      Corresponds ρ n n' (.createSession r) (.createSession r')
  | processChat {r r' : Request Chat} (hpayload : r'.payload = r.payload)
      (hsession : r'.sessionId = r.sessionId.map ρ.session) :
      Corresponds ρ n n' (.processChat r) (.processChat r')

section
variable {n n' : Nat} {now now' : Timestamp} {q q' : ServiceRequest} {a a' : ServiceAnswer}
  {s₁ s₁' : Store}

/-- **Operations do not look into identifiers and times.** Corresponding requests have matching
effects on matching stores. -/
theorem Matches.effect (h : Matches ρ s s') (hq : Corresponds ρ n n' q q')
    (heffect : Effect n now s q a s₁) (heffect' : Effect n' now' s' q' a' s₁') :
    Matches ρ s₁ s₁' := by
  cases hq with
  | createCasefile hnew hpayload huser =>
    cases heffect
    cases heffect'
    rw [← hnew]
    refine h.putCasefile ⟨rfl, ?_, ?_, ?_, huser, rfl⟩
    all_goals simp only [newCasefile, hpayload]
  | getCasefile hcasefile =>
    cases heffect
    cases heffect'
    exact h
  | @addSession r r' hcasefile hsession =>
    cases heffect with
    | sessionAdded hc ht =>
      cases heffect' with
      | sessionAdded hc' ht' =>
        rw [hcasefile] at hc'
        rw [hsession] at ht'
        rw [hcasefile, hsession]
        have hlinked := matches_linked (h.casefile hc hc') r.payload.sessionId now now'
        exact (h.putCasefile hlinked).putSession (matches_inCasefile (h.session ht ht') _)
  | createSession hnew hpayload huser hscope =>
    cases heffect
    cases heffect'
    rw [← hnew]
    refine h.putSession ⟨rfl, hscope, huser, ?_, rfl⟩
    simp only [newSession, hpayload]
  | processChat hpayload hsession =>
    cases heffect with
    | @chatReply r id t hid ht =>
      cases heffect' with
      | @chatReply r' id' t' hid' ht' =>
        obtain rfl : id' = ρ.session id := by
          rw [hid, hid'] at hsession
          exact Option.some.inj hsession
        rw [hpayload]
        exact h.putSession (matches_answered (h.session ht ht') _ now now')

/-! ## The same request again -/

/-- What a request finds in a store that a renaming fixes, the renaming leaves as it is. -/
theorem corresponds_withId (heffect : Effect n now s q a s₁) (hfix : ρ.Fixes s)
    (hcasefile : ρ.casefile (Identifier.casefile n) = Identifier.casefile n')
    (hsession : ρ.session (Identifier.session n) = Identifier.session n') (id : String) :
    Corresponds ρ n n' q (q.withId id) := by
  cases heffect with
  | casefileCreated htitle => exact .createCasefile hcasefile rfl rfl
  | casefileRead hc => exact .getCasefile (hfix.casefile (by rw [hc]; rfl)).symm
  | sessionAdded hc ht =>
    exact .addSession (hfix.casefile (by rw [hc]; rfl)).symm (hfix.session (by rw [ht]; rfl)).symm
  | @sessionCreated r hscope =>
    refine .createSession hsession rfl rfl ?_
    show r.metadataCasefile? = r.metadataCasefile?.map ρ.casefile
    cases hmetadata : r.metadataCasefile? with
    | none => rfl
    | some casefileId => rw [Option.map_some, hfix.casefile (hscope casefileId hmetadata)]
  | @chatReply r id t hid ht =>
    refine .processChat rfl ?_
    show r.sessionId = r.sessionId.map ρ.session
    rw [hid, Option.map_some, hfix.session (by rw [ht]; rfl)]

/-- Whether an operation succeeds, and with what error it fails, depends on the store and on the
content of the request only. -/
theorem perform_again (s : Store) (q : ServiceRequest) (id : String) (n n' : Nat)
    (now now' : Timestamp) :
    (∃ err, s.perform n now q = .error err ∧ s.perform n' now' (q.withId id) = .error err) ∨
    ∃ a a' s₁ s₁', Effect n now s q a s₁ ∧ Effect n' now' s (q.withId id) a' s₁' := by
  cases q with
  | createCasefile r =>
    by_cases htitle : Text.trim r.payload.title = ""
    · refine .inl ⟨.invalid "title must not be blank", ?_, ?_⟩
      all_goals simp only [perform, ServiceRequest.withId, createCasefile_eq, if_pos htitle]; rfl
    · exact .inr ⟨_, _, _, _, .casefileCreated htitle, .casefileCreated htitle⟩
  | getCasefile r =>
    cases hc : s.casefile? r.payload.casefileId with
    | some c => exact .inr ⟨_, _, _, _, .casefileRead hc, .casefileRead hc⟩
    | none =>
      refine .inl ⟨.notFound .casefile r.payload.casefileId, ?_, ?_⟩
      all_goals simp only [perform, ServiceRequest.withId, getCasefile, hc]; rfl
  | addSession r =>
    cases ht : s.session? r.payload.sessionId with
    | none =>
      refine .inl ⟨.notFound .toolSession r.payload.sessionId, ?_, ?_⟩
      all_goals simp only [perform, ServiceRequest.withId, addSession, ht]; rfl
    | some t =>
      cases hc : s.casefile? r.payload.casefileId with
      | some c => exact .inr ⟨_, _, _, _, .sessionAdded hc ht, .sessionAdded hc ht⟩
      | none =>
        refine .inl ⟨.notFound .casefile r.payload.casefileId, ?_, ?_⟩
        all_goals simp only [perform, ServiceRequest.withId, addSession, ht, hc]; rfl
  | createSession r =>
    cases hmissing : r.metadataCasefile?.filter (!s.casefiles.contains ·) with
    | none =>
      have hscope := (filter_missing_eq_none_iff r.metadataCasefile?).1 hmissing
      exact .inr ⟨_, _, _, _, .sessionCreated hscope, .sessionCreated hscope⟩
    | some missing =>
      refine .inl ⟨.notFound .casefile missing, ?_, ?_⟩
      · simp only [perform, createSession, hmissing]
        rfl
      · have hmissing' :
            ({ r with requestId := id } : Request CreateSession).metadataCasefile?.filter
              (!s.casefiles.contains ·) = some missing := hmissing
        simp only [perform, ServiceRequest.withId, createSession, hmissing']
        rfl
  | processChat r =>
    cases hid : r.sessionId with
    | none =>
      refine .inl ⟨.invalid "chat requires a session_id", ?_, ?_⟩
      all_goals simp only [perform, ServiceRequest.withId, processChat, hid]; rfl
    | some sessionId =>
      cases ht : s.session? sessionId with
      | some t => exact .inr ⟨_, _, _, _, .chatReply hid ht, .chatReply hid ht⟩
      | none =>
        refine .inl ⟨.notFound .toolSession sessionId, ?_, ?_⟩
        all_goals simp only [perform, ServiceRequest.withId, processChat, hid, ht]; rfl

end

end Store

end CasefileHub
