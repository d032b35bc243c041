import CasefileHub.Proofs.Store.History
import CasefileHub.Proofs.Store.Timeless
/-!
# Links and chats in either order

A link changes one casefile and one session, and a chat changes one session. They do not look at
more, and of a session that both change they change different things. So two of them that are about
different records, or a link and a chat of whatever records, are answered the same in either order
and lead to the same store. Times are those of the calls, so if these are made at different times,
the answers and the stores are the same up to times. A link that is made again changes nothing.

    effects of independent requests go on to each other's effect              (Independent.diamond)
    independent requests are answered the same in either order          (Independent.answerAt_comm)
    so are calls of the services, and links repeat     (independent_calls_commute_and_links_repeat)
-/

namespace CasefileHub

namespace Store

/-! ## Changes in either order -/

section
variable (s : Store) (id m : String) (c c' : Casefile) (t t' : ToolSession)

theorem putCasefile_comm {id m : String} (h : id ≠ m) :
    (s.putCasefile id c).putCasefile m c' = (s.putCasefile m c').putCasefile id c := by
  unfold putCasefile
  rw [Table.insert_comm _ h]

theorem putSession_comm {id m : String} (h : id ≠ m) :
    (s.putSession id t).putSession m t' = (s.putSession m t').putSession id t := by
  unfold putSession
  rw [Table.insert_comm _ h]

theorem putCasefile_putSession :
    (s.putSession id t).putCasefile m c = (s.putCasefile m c).putSession id t := rfl

/-- Of two sessions that are put in one place, the second stays. -/
theorem putSession_putSession : (s.putSession id t).putSession id t' = s.putSession id t' := by
  unfold putSession
  refine congrArg (Store.mk s.casefiles) (Table.ext_get? fun k => ?_)
  simp only [Table.get?_insert]
  split <;> rfl

theorem putCasefile_of_casefile? (hc : s.casefile? id = some c) : s.putCasefile id c = s := by
  unfold putCasefile
  refine congrArg (Store.mk · s.sessions) (Table.ext_get? fun k => ?_)
  rw [Table.get?_insert]
  split
  · rename_i hk
    rw [hk]
    exact hc.symm
  · rfl

theorem putSession_of_session? (ht : s.session? id = some t) : s.putSession id t = s := by
  unfold putSession
  refine congrArg (Store.mk s.casefiles) (Table.ext_get? fun k => ?_)
  rw [Table.get?_insert]
  split
  · rename_i hk
    rw [hk]
    exact ht.symm
  · rfl

end

/-! ## Independent requests -/

/-- Links and chats that do not matter to each other: two links of different casefiles and sessions,
two chats in different sessions, or a link and a chat. -/
inductive Independent : ServiceRequest → ServiceRequest → Prop
  | links {r r' : Request AddSession} (hcasefile : r.payload.casefileId ≠ r'.payload.casefileId)
      (hsession : r.payload.sessionId ≠ r'.payload.sessionId) :
      Independent (.addSession r) (.addSession r')
  | chats {r r' : Request Chat} (hsession : ∀ id, r.sessionId = some id → r'.sessionId ≠ some id) :
      Independent (.processChat r) (.processChat r')
  | linkChat (r : Request AddSession) (r' : Request Chat) :
      Independent (.addSession r) (.processChat r')
  | chatLink (r : Request Chat) (r' : Request AddSession) :
      Independent (.processChat r) (.addSession r')

variable {q q' : ServiceRequest} {n n' : Nat} {now now' : Timestamp} {s s₁ s₂ : Store}
  {a a' : ServiceAnswer}

theorem Independent.symm (h : Independent q q') : Independent q' q := by
  cases h with
  | links hcasefile hsession => exact .links hcasefile.symm hsession.symm
  | chats hsession => exact .chats fun id hid' hid => hsession id hid hid'
  | linkChat r r' => exact .chatLink r' r
  | chatLink r r' => exact .linkChat r' r

/-! ## Effects in either order -/

/-- The store after a link of a session to a casefile. -/
def afterLink (s : Store) (link : AddSession) (c : Casefile) (t : ToolSession) (now : Timestamp) :
    Store :=
  (s.putCasefile link.casefileId (linked c link.sessionId now)).putSession link.sessionId
    (inCasefile t link.casefileId)

/-- The store after a chat in a session. -/
def afterChat (s : Store) (id : String) (t : ToolSession) (text : String) (now : Timestamp) :
    Store :=
  s.putSession id (answered t text now)

section
variable (s : Store) (link link' : AddSession) (c c' : Casefile) (t t' : ToolSession)
  (now now' : Timestamp) (text text' : String)

theorem afterLink_comm (hcasefile : link.casefileId ≠ link'.casefileId)
    (hsession : link.sessionId ≠ link'.sessionId) :
    (s.afterLink link c t now).afterLink link' c' t' now' =
      (s.afterLink link' c' t' now').afterLink link c t now := by
  unfold afterLink
  rw [putCasefile_putSession, putSession_comm _ _ _ hsession, putCasefile_comm _ _ _ hcasefile]
  rfl

theorem afterChat_comm {id id' : String} (h : id ≠ id') :
    (s.afterChat id t text now).afterChat id' t' text' now' =
      (s.afterChat id' t' text' now').afterChat id t text now :=
  putSession_comm s _ _ h

theorem afterLink_afterChat {id : String} (h : link.sessionId ≠ id) :
    (s.afterLink link c t now).afterChat id t' text now' =
      (s.afterChat id t' text now').afterLink link c t now := by
  unfold afterLink afterChat
  rw [putSession_comm _ _ _ h]
  rfl

/-- The link of a session changes its casefile, and a chat in it its messages. -/
theorem afterLink_afterChat_same :
    (s.afterLink link c t now).afterChat link.sessionId (inCasefile t link.casefileId) text now' =
      (s.afterChat link.sessionId t text now').afterLink link c (answered t text now') now := by
  unfold afterLink afterChat
  rw [putCasefile_putSession, putSession_putSession, putSession_putSession]
  rfl

end

theorem effect_link {r : Request AddSession} {c : Casefile} {t : ToolSession}
    (hc : s.casefile? r.payload.casefileId = some c)
    (ht : s.session? r.payload.sessionId = some t) :
    Effect n now s (.addSession r)
      (.sessionAdded ⟨r.payload.casefileId, r.payload.sessionId,
        (linked c r.payload.sessionId now).sessionIds.length⟩) (s.afterLink r.payload c t now) :=
  .sessionAdded hc ht

theorem effect_chat {r : Request Chat} {id : String} {t : ToolSession} (hid : r.sessionId = some id)
    (ht : s.session? id = some t) :
    Effect n now s (.processChat r)
      (.chatReply ⟨id, reply r.payload.message now,
        (answered t r.payload.message now).messages.length⟩)
      (s.afterChat id t r.payload.message now) :=
  .chatReply hid ht

theorem diamond_links {r r' : Request AddSession}
    (hcasefile : r.payload.casefileId ≠ r'.payload.casefileId)
    (hsession : r.payload.sessionId ≠ r'.payload.sessionId)
    (h : Effect n now s (.addSession r) a s₁) (h' : Effect n' now' s (.addSession r') a' s₂) :
    ∃ s₃, Effect n' now' s₁ (.addSession r') a' s₃ ∧ Effect n now s₂ (.addSession r) a s₃ := by
  cases h with
  | @sessionAdded r c t hc ht =>
    cases h' with
    | @sessionAdded r' c' t' hc' ht' =>
      refine ⟨(s.afterLink r.payload c t now).afterLink r'.payload c' t' now', ?_, ?_⟩
      · exact effect_link (by simpa [Ne.symm hcasefile] using hc')
          (by simpa [Ne.symm hsession] using ht')
      · rw [afterLink_comm s _ _ _ _ _ _ _ _ hcasefile hsession]
        exact effect_link (by simpa [hcasefile] using hc) (by simpa [hsession] using ht)

theorem diamond_chats {r r' : Request Chat}
    (hsession : ∀ id, r.sessionId = some id → r'.sessionId ≠ some id)
    (h : Effect n now s (.processChat r) a s₁) (h' : Effect n' now' s (.processChat r') a' s₂) :
    ∃ s₃, Effect n' now' s₁ (.processChat r') a' s₃ ∧ Effect n now s₂ (.processChat r) a s₃ := by
  cases h with
  | @chatReply r id t hid ht =>
    cases h' with
    | @chatReply r' id' t' hid' ht' =>
      have hne : id ≠ id' := fun heq => hsession id hid (heq ▸ hid')
      refine ⟨(s.afterChat id t r.payload.message now).afterChat id' t' r'.payload.message now',
        ?_, ?_⟩
      · exact effect_chat hid' (by simpa [Ne.symm hne] using ht')
      · rw [afterChat_comm s _ _ _ _ _ _ hne]
        exact effect_chat hid (by simpa [hne] using ht)

theorem diamond_linkChat {r : Request AddSession} {r' : Request Chat}
    (h : Effect n now s (.addSession r) a s₁) (h' : Effect n' now' s (.processChat r') a' s₂) :
    ∃ s₃, Effect n' now' s₁ (.processChat r') a' s₃ ∧ Effect n now s₂ (.addSession r) a s₃ := by
  cases h with
  | @sessionAdded r c t hc ht =>
    cases h' with
    | @chatReply r' id t' hid ht' =>
      by_cases hsame : r.payload.sessionId = id
      · subst hsame
        obtain rfl : t = t' := Option.some.inj (ht.symm.trans ht')
        refine ⟨(s.afterLink r.payload c t now).afterChat r.payload.sessionId
          (inCasefile t r.payload.casefileId) r'.payload.message now', ?_, ?_⟩
        · exact effect_chat (t := inCasefile t r.payload.casefileId) hid (by simp)
        · rw [afterLink_afterChat_same]
          exact effect_link (by simpa using hc) (by simp)
      · refine ⟨(s.afterLink r.payload c t now).afterChat id t' r'.payload.message now', ?_, ?_⟩
        · exact effect_chat hid (by simpa [Ne.symm hsame] using ht')
        · rw [afterLink_afterChat s _ _ _ _ _ _ _ hsame]
          exact effect_link (by simpa using hc) (by simpa [hsame] using ht)

/-- Two independent requests, each of which has an effect, go on to the effect of the other. -/
theorem Independent.diamond (hq : Independent q q') (h : Effect n now s q a s₁)
    (h' : Effect n' now' s q' a' s₂) :
    ∃ s₃, Effect n' now' s₁ q' a' s₃ ∧ Effect n now s₂ q a s₃ := by
  cases hq with
  | links hcasefile hsession => exact diamond_links hcasefile hsession h h'
  | chats hsession => exact diamond_chats hsession h h'
  | linkChat r r' => exact diamond_linkChat h h'
  | chatLink r r' =>
    obtain ⟨s₃, hchat, hlink⟩ := diamond_linkChat h' h
    exact ⟨s₃, hlink, hchat⟩

/-! ## Calls in either order -/

/-- Links and chats. -/
inductive ChangesRecords : ServiceRequest → Prop
  | link (r : Request AddSession) : ChangesRecords (.addSession r)
  | chat (r : Request Chat) : ChangesRecords (.processChat r)

theorem Independent.changesRecords (h : Independent q q') : ChangesRecords q := by
  cases h with
  | links | linkChat => exact .link _
  | chats | chatLink => exact .chat _

/-- Links and chats put records in the places of others. -/
theorem ChangesRecords.sameRecords (hq : ChangesRecords q) (h : Effect n now s q a s₁) :
    s.SameRecords s₁ := by
  cases hq with
  | link r =>
    cases h with
    | sessionAdded hc ht =>
      constructor
      · intro id
        rw [casefile?_putSession, casefile?_putCasefile]
        split
        · rename_i hid
          rw [hid, hc]
          rfl
        · rfl
      · intro id
        rw [session?_putSession]
        split
        · rename_i hid
          rw [hid, ht]
          rfl
        · rfl
  | chat r =>
    cases h with
    | chatReply hid ht =>
      refine ⟨fun _ => rfl, fun id => ?_⟩
      rw [session?_putSession]
      split
      · rename_i hid
        rw [hid, ht]
        rfl
      · rfl

/-- What a request is answered at a time, and the store after it: the same store, if it fails. -/
def answerAt (s : Store) (now : Timestamp) (q : ServiceRequest) :
    Except ServiceError ServiceAnswer × Store :=
  match s.perform 0 now q with
  | .ok (a, s') => (.ok a, s')
  | .error err => (.error err, s)

theorem answerAt_of_effect (h : Effect 0 now s q a s₁) : s.answerAt now q = (.ok a, s₁) := by
  rw [answerAt, perform_of_effect h]

theorem answerAt_of_error {err : ServiceError} (h : s.perform 0 now q = .error err) :
    s.answerAt now q = (.error err, s) := by
  rw [answerAt, h]

theorem answerAt_timeless (s : Store) (now : Timestamp) (q : ServiceRequest) :
    s.timeless.answerAt .erased q =
      ((s.answerAt now q).1.map ServiceAnswer.timeless, (s.answerAt now q).2.timeless) := by
  unfold answerAt
  rw [perform_timeless 0 now]
  rcases s.perform 0 now q with _ | ⟨a, s'⟩ <;> rfl

/-- When a request is answered makes no difference but in the times. -/
theorem timeless_answerAt (s : Store) (now now' : Timestamp) (q : ServiceRequest) :
    (s.answerAt now q).1.map ServiceAnswer.timeless =
      (s.answerAt now' q).1.map ServiceAnswer.timeless :=
  (congrArg Prod.fst (answerAt_timeless s now q)).symm.trans
    (congrArg Prod.fst (answerAt_timeless s now' q))

theorem timeless_answerAt_answerAt (s : Store) (now now' : Timestamp) (q q' : ServiceRequest) :
    ((s.answerAt now q).2.answerAt now' q').2.timeless =
      ((s.timeless.answerAt .erased q).2.answerAt .erased q').2 := by
  rw [answerAt_timeless s now, answerAt_timeless _ now']

/-- Independent requests are answered in either order as if each was the first, and lead to the same
store. -/
theorem Independent.answerAt_comm (h : Independent q q') (s : Store) (now now' : Timestamp) :
    ((s.answerAt now q).2.answerAt now' q').1 = (s.answerAt now' q').1 ∧
    ((s.answerAt now' q').2.answerAt now q).1 = (s.answerAt now q).1 ∧
    ((s.answerAt now q).2.answerAt now' q').2 = ((s.answerAt now' q').2.answerAt now q).2 := by
  cases hp : s.perform 0 now q with
  | error err =>
    cases hp' : s.perform 0 now' q' with
    | error err' => simp [answerAt_of_error hp, answerAt_of_error hp']
    | ok p' =>
      have heffect' := effect_of_perform hp'
      have hagain : p'.2.perform 0 now q = .error err :=
        (h.symm.changesRecords.sameRecords heffect').perform_error hp
      simp [answerAt_of_error hp, answerAt_of_effect heffect', answerAt_of_error hagain]
  | ok p =>
    have heffect := effect_of_perform hp
    cases hp' : s.perform 0 now' q' with
    | error err' =>
      have hagain : p.2.perform 0 now' q' = .error err' :=
        (h.changesRecords.sameRecords heffect).perform_error hp'
      simp [answerAt_of_error hp', answerAt_of_effect heffect, answerAt_of_error hagain]
    | ok p' =>
      have heffect' := effect_of_perform hp'
      obtain ⟨s₃, hsecond, hsecond'⟩ := h.diamond heffect heffect'
      simp [answerAt_of_effect heffect, answerAt_of_effect heffect', answerAt_of_effect hsecond,
        answerAt_of_effect hsecond']

/-! ## Links that are made again -/

theorem linked_again (c : Casefile) (id : String) (now now' : Timestamp) :
    linked (linked c id now) id now' = linked c id now := by
  have hmem : id ∈ (linked c id now).sessionIds := (mem_linked c id now).2 (.inr rfl)
  exact if_pos hmem

/-- A link that is made again, at whatever time, is answered the same and changes nothing. -/
theorem effect_link_again {r : Request AddSession} (h : Effect n now s (.addSession r) a s₁)
    (n' : Nat) (now' : Timestamp) : Effect n' now' s₁ (.addSession r) a s₁ := by
  cases h with
  | @sessionAdded r c t hc ht =>
    have hcasefile : (s.afterLink r.payload c t now).casefile? r.payload.casefileId =
        some (linked c r.payload.sessionId now) := by simp [afterLink]
    have hsession : (s.afterLink r.payload c t now).session? r.payload.sessionId =
        some (inCasefile t r.payload.casefileId) := by simp [afterLink]
    have heffect : Effect n' now' (s.afterLink r.payload c t now) (.addSession r) _ _ :=
      effect_link hcasefile hsession
    have hstore : (s.afterLink r.payload c t now).afterLink r.payload
        (linked c r.payload.sessionId now) (inCasefile t r.payload.casefileId) now' =
        s.afterLink r.payload c t now := by
      rw [afterLink, linked_again, putCasefile_of_casefile? _ _ _ hcasefile]
      exact putSession_of_session? _ _ _ hsession
    rw [hstore, linked_again] at heffect
    exact heffect

/-! ## Calls of the services -/

/-- A link or a chat uses up no numbers. -/
theorem ChangesRecords.serve_apply (hq : ChangesRecords q) (d : Option Nat)
    (e : Environment Store) :
    (services.serve q).run d e =
      (some (e.state.answerAt e.now q).1, { e with state := (e.state.answerAt e.now q).2 }) := by
  have hnumbers : q.numbers = 0 := by cases hq <;> rfl
  have hperform : e.state.perform e.unused e.now q = e.state.perform 0 e.now q := by
    cases hq <;> rfl
  rw [Store.serve_apply, hperform, hnumbers, answerAt]
  rcases e.state.perform 0 e.now q with _ | ⟨a, s'⟩ <;> rfl

/-- Two calls of the services, one after the other and each at a time, are answered and lead to a
store, whatever the deadlines. -/
def InTurn (e : Environment Store) (q : ServiceRequest) (now : Timestamp) (q' : ServiceRequest)
    (now' : Timestamp) (a a' : Except ServiceError ServiceAnswer) (s : Store) : Prop :=
  ∃ e₁ e₂, (∀ d, (services.serve q).run d { e with now := now } = (some a, e₁)) ∧
    (∀ d, (services.serve q').run d { e₁ with now := now' } = (some a', e₂)) ∧ e₂.state = s

theorem inTurn_answerAt (hq : ChangesRecords q) (hq' : ChangesRecords q') (e : Environment Store)
    (now now' : Timestamp) :
    InTurn e q now q' now' (e.state.answerAt now q).1
      ((e.state.answerAt now q).2.answerAt now' q').1
      ((e.state.answerAt now q).2.answerAt now' q').2 :=
  ⟨_, _, fun d => hq.serve_apply d _, fun d => hq'.serve_apply d _, rfl⟩

/-- **Independent calls commute, and links can be repeated.** From any store, two independent calls
are answered in either order, with the same answers and the same store in the end, up to the times
of the calls; and exactly the same, if each is made at one time. A link that succeeds and is made
again is answered the same, and the store stays as it is. -/
theorem independent_calls_commute_and_links_repeat :
    (∀ q q', Independent q q' → ∀ (e : Environment Store) (t t' u u' : Timestamp),
      ∃ a a' s b b' s',
        InTurn e q t q' t' a a' s ∧ InTurn e q' u' q u b' b s' ∧
        a.map ServiceAnswer.timeless = b.map ServiceAnswer.timeless ∧
        a'.map ServiceAnswer.timeless = b'.map ServiceAnswer.timeless ∧
        s.timeless = s'.timeless ∧
        (t = u → t' = u' → a = b ∧ a' = b' ∧ s = s')) ∧
    ∀ (r : Request AddSession) (e e₁ : Environment Store) (d : Option Nat) (a : ServiceAnswer),
      (services.serve (.addSession r)).run d e = (some (.ok a), e₁) →
      ∀ d' u, (services.serve (.addSession r)).run d' { e₁ with now := u } =
        (some (.ok a), { e₁ with now := u }) := by
  constructor
  · intro q q' h e t t' u u'
    have hq := h.changesRecords
    have hq' := h.symm.changesRecords
    obtain ⟨hanswer', hanswer, hstore⟩ := h.answerAt_comm e.state t t'
    obtain ⟨-, hlater, -⟩ := h.answerAt_comm e.state u u'
    obtain ⟨-, -, htimeless⟩ := h.answerAt_comm e.state.timeless .erased .erased
    refine ⟨_, _, _, _, _, _, inTurn_answerAt hq hq' e t t', inTurn_answerAt hq' hq e u' u,
      ?_, ?_, ?_, ?_⟩
    · rw [hlater]
      exact timeless_answerAt e.state t u q
    · rw [hanswer']
      exact timeless_answerAt e.state t' u' q'
    · rw [timeless_answerAt_answerAt, timeless_answerAt_answerAt]
      exact htimeless
    · rintro rfl rfl
      exact ⟨hanswer.symm, hanswer', hstore⟩
  · intro r e e₁ d a hrun d' u
    have hlink := ChangesRecords.link r
    obtain ⟨-, ⟨err, herr, -⟩ | ⟨a', ha, heffect⟩⟩ := serve_cases hrun
    · cases herr
    · cases ha
      rw [hlink.serve_apply, answerAt_of_effect (effect_link_again heffect 0 u)]

/-- A store with one casefile and one session. -/
def unlinked : Environment Store where
  state :=
    { casefiles := .insert .empty "cf"
        { id := "cf", title := "Outage", createdAt := ⟨1⟩, updatedAt := ⟨1⟩ }
      sessions := .insert .empty "ts" { id := "ts", createdAt := ⟨2⟩ } }
  now := ⟨12⟩

def linkRequest : Request AddSession :=
  { requestId := "r1", operation := "casefile.add_session", payload := ⟨"cf", "ts"⟩ }

def chatRequest : Request Chat :=
  { requestId := "r2", sessionId := some "ts", operation := "chat.process",
    payload := ⟨"hi"⟩ }

/-- The session can be linked and chatted in, in either order and at any times, and the link changes
the store once. -/
theorem one_session_linked_and_chatted_in :
    (∃ a a' s b b' s',
      InTurn unlinked (.addSession linkRequest) ⟨13⟩ (.processChat chatRequest) ⟨14⟩ a a' s ∧
      InTurn unlinked (.processChat chatRequest) ⟨15⟩ (.addSession linkRequest) ⟨16⟩ b' b s' ∧
      s.timeless = s'.timeless) ∧
    ∃ a e₁, (services.serve (.addSession linkRequest)).run none unlinked = (some (.ok a), e₁) ∧
      e₁.state ≠ unlinked.state ∧
      (services.serve (.addSession linkRequest)).run none { e₁ with now := ⟨17⟩ } =
        (some (.ok a), { e₁ with now := ⟨17⟩ }) := by
  obtain ⟨hcommute, hrepeat⟩ := independent_calls_commute_and_links_repeat
  obtain ⟨a, a', s, b, b', s', horder, horder', -, -, hstore, -⟩ :=
    hcommute _ _ (.linkChat linkRequest chatRequest) unlinked ⟨13⟩ ⟨14⟩ ⟨16⟩ ⟨15⟩
  refine ⟨⟨a, a', s, b, b', s', horder, horder', hstore⟩, _, _, rfl, by decide, ?_⟩
  exact hrepeat linkRequest unlinked _ none _ rfl none ⟨17⟩

end Store

end CasefileHub
