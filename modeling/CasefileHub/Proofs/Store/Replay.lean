import CasefileHub.Proofs.Store.Links
/-!
# The store is the replay of its history

The history of a store tells which chats and links have succeeded, by their requests. Replayed in
order they give the lists that the store keeps, and the counts that were answered on the way:

    History log e → messagesOf e.state id = two messages for each exchange  (messages_of_history)
    History log e → listedBy e.state id = the sessions linked to id, each once  (listed_of_history)
    a successful chat answers twice the number of exchanges, a successful link the number of
    different sessions                                                       (store_replays_history)
-/

namespace CasefileHub

/-- A message and the answer to it, in a session. -/
structure Exchange where
  sessionId : String
  text : String
  time : Timestamp
deriving DecidableEq, Repr

/-- What an exchange adds to its session. -/
def Exchange.messages (x : Exchange) : List ChatMessage :=
  [⟨.user, x.text, x.time⟩, ⟨.assistant, "Received: " ++ x.text, x.time⟩]

/-- The exchange of a chat that has succeeded. -/
def Served.exchange? : Served → Option Exchange
  | ⟨.processChat r, .ok (.chatReply a)⟩ =>
    r.sessionId.map fun id => ⟨id, r.payload.message, a.reply.timestamp⟩
  | _ => none

/-- The link that a call asked for and that has succeeded. -/
def Served.linking? : Served → Option Link
  | ⟨.addSession r, .ok _⟩ => some ⟨r.payload.casefileId, r.payload.sessionId⟩
  | _ => none

namespace Store

/-! ## Events of a history -/

/-- The exchanges in a session, in order. -/
def exchanges (log : List Served) (sessionId : String) : List Exchange :=
  (log.filterMap Served.exchange?).filter (·.sessionId = sessionId)

/-- The links that were asked for and made, in order. -/
def linkings (log : List Served) : List Link := log.filterMap Served.linking?

/-- The sessions that have been linked to a casefile, each once, in order of their first links. -/
def sessionsLinked (log : List Served) (casefileId : String) : List String :=
  (linkedTo (linkings log) casefileId).eraseDups

/-- The messages of a session; of one that is not there, none. -/
def messagesOf (s : Store) (sessionId : String) : List ChatMessage :=
  ((s.session? sessionId).map ToolSession.messages).getD []

/-- The sessions that a casefile lists; one that is not there lists none. -/
def listedBy (s : Store) (casefileId : String) : List String :=
  ((s.casefile? casefileId).map Casefile.sessionIds).getD []

section
variable (log : List Served) (v : Served) (id : String)

theorem exchanges_append :
    exchanges (log ++ [v]) id =
      exchanges log id ++ v.exchange?.toList.filter (·.sessionId = id) := by
  unfold exchanges
  rw [List.filterMap_append, List.filter_append]
  cases h : v.exchange? <;> simp [h]

theorem exchanges_append_of_none (h : v.exchange? = none) :
    exchanges (log ++ [v]) id = exchanges log id := by
  rw [exchanges_append, h]
  simp

theorem linkings_append : linkings (log ++ [v]) = linkings log ++ v.linking?.toList := by
  unfold linkings
  rw [List.filterMap_append]
  cases h : v.linking? <;> simp [h]

theorem length_flatMap_messages (xs : List Exchange) :
    (xs.flatMap Exchange.messages).length = 2 * xs.length := by
  induction xs with
  | nil => rfl
  | cons x xs ih =>
    have hx : x.messages.length = 2 := rfl
    rw [List.flatMap_cons, List.length_append, ih, hx, List.length_cons]
    omega

end

/-! ## Messages -/

section
variable {s s' : Store} {id m : String} {c : Casefile} {t : ToolSession}

@[simp] theorem messagesOf_putCasefile : (s.putCasefile id c).messagesOf m = s.messagesOf m := rfl

theorem messagesOf_putSession :
    (s.putSession id t).messagesOf m = if m = id then t.messages else s.messagesOf m := by
  unfold messagesOf
  rw [session?_putSession]
  split <;> rfl

theorem messagesOf_of_session? (h : s.session? id = some t) : s.messagesOf id = t.messages := by
  unfold messagesOf
  rw [h]
  rfl

/-- A session that is put in place of one with the same messages makes no difference. -/
theorem messagesOf_putSession_of_eq (h : s.messagesOf id = t.messages) :
    (s.putSession id t).messagesOf m = s.messagesOf m := by
  rw [messagesOf_putSession]
  split
  · rename_i hm
    rw [hm, h]
  · rfl

/-- Only a chat adds messages, and only to its session. -/
theorem messagesOf_effect {n : Nat} {now : Timestamp} {q : ServiceRequest} {a : ServiceAnswer}
    (hfresh : s.Fresh n) (h : Effect n now s q a s') :
    s'.messagesOf id = s.messagesOf id ++
      (((Served.mk q (.ok a)).exchange?).toList.filter (·.sessionId = id)).flatMap
        Exchange.messages := by
  cases h with
  | casefileCreated htitle => simp [Served.exchange?]
  | casefileRead hc => simp [Served.exchange?]
  | @sessionAdded r c t hc ht =>
    have hkept : s.messagesOf r.payload.sessionId =
        (inCasefile t r.payload.casefileId).messages := by
      rw [messagesOf_of_session? ht]
      rfl
    rw [messagesOf_putSession_of_eq (s := s.putCasefile _ _) hkept]
    simp [Served.exchange?]
  | @sessionCreated r hscope =>
    have hnone : s.messagesOf (Identifier.session n) = [] := by
      unfold messagesOf
      rw [hfresh.session?_eq_none]
      rfl
    have hcreated := messagesOf_putSession_of_eq (m := id)
      (t := newSession (Identifier.session n) now r) hnone
    rw [hcreated]
    simp [Served.exchange?]
  | @chatReply r session t hid ht =>
    rw [messagesOf_putSession]
    by_cases hsame : id = session
    · rw [if_pos hsame, hsame, messagesOf_of_session? ht]
      simp [Served.exchange?, hid, answered, reply, Exchange.messages]
    · rw [if_neg hsame]
      simp [Served.exchange?, hid, Ne.symm hsame]

end

/-- The messages of every session are those of its exchanges. -/
theorem messages_of_history {log : List Served} {e : Environment Store} (h : History log e)
    (id : String) : e.state.messagesOf id = (exchanges log id).flatMap Exchange.messages := by
  refine History.induction
    (P := fun log s => s.messagesOf id = (exchanges log id).flatMap Exchange.messages) rfl ?_ ?_ h
  · intro log s q err ih
    have hnone : (Served.mk q (.error err)).exchange? = none := by cases q <;> rfl
    rw [exchanges_append_of_none log _ id hnone]
    exact ih
  · intro log n now s q a s' hfresh _ heffect ih
    rw [messagesOf_effect hfresh heffect, ih, exchanges_append, List.flatMap_append]

/-! ## Links -/

/-- The link that is asked for is the one that is confirmed. -/
theorem linking?_of_effect {n : Nat} {now : Timestamp} {s s' : Store} {q : ServiceRequest}
    {a : ServiceAnswer} (h : Effect n now s q a s') :
    (Served.mk q (.ok a)).linking? = a.link? := by
  cases h <;> rfl

theorem linkings_of_history {log : List Served} {e : Environment Store} (h : History log e) :
    linkings log = links log := by
  refine History.induction (P := fun log _ => linkings log = links log) rfl ?_ ?_ h
  · intro log s q err ih
    have hnone : (Served.mk q (.error err)).linking? = none := by cases q <;> rfl
    rw [linkings_append, hnone, links_failure, ih]
    simp
  · intro log n now s q a s' _ _ heffect ih
    rw [linkings_append, linking?_of_effect heffect, links_success, ih]

theorem listedBy_of_casefile? {s : Store} {id : String} {c : Casefile}
    (h : s.casefile? id = some c) : s.listedBy id = c.sessionIds := by
  unfold listedBy
  rw [h]
  rfl

theorem listed_of_history {log : List Served} {e : Environment Store} (h : History log e)
    (id : String) : e.state.listedBy id = sessionsLinked log id := by
  have hrec := recorded_of_history h
  unfold sessionsLinked
  rw [linkings_of_history h]
  cases hc : e.state.casefile? id with
  | none =>
    unfold listedBy
    rw [hc, hrec.linkedTo_eq_nil hc]
    rfl
  | some c => rw [listedBy_of_casefile? hc, hrec.listed id c hc]

/-! ## Answers -/

/-- What a chat or a link is answered that succeeds after some other calls: how many messages the
session holds then, and how many sessions the casefile lists. -/
def Counts (before : List Served) (q : ServiceRequest) (a : ServiceAnswer) : Prop :=
  match q with
  | .processChat r => ∃ id time, r.sessionId = some id ∧
      a = .chatReply ⟨id, ⟨.assistant, "Received: " ++ r.payload.message, time⟩,
        2 * ((exchanges before id).length + 1)⟩
  | .addSession r =>
      a = .sessionAdded ⟨r.payload.casefileId, r.payload.sessionId,
        (sessionsLinked (before ++ [⟨q, .ok a⟩]) r.payload.casefileId).length⟩
  | _ => True

theorem counts_of_effect {log : List Served} {e e' : Environment Store} {q : ServiceRequest}
    {a : ServiceAnswer} (h : History log e) (hnext : History (log ++ [⟨q, .ok a⟩]) e')
    (heffect : Effect e.unused e.now e.state q a e'.state) : Counts log q a := by
  have hlisted := listed_of_history hnext
  generalize e'.state = s' at heffect hlisted
  cases heffect with
  | casefileCreated htitle => trivial
  | casefileRead hc => trivial
  | @sessionAdded r c t hc ht =>
    have hcount := hlisted r.payload.casefileId
    rw [listedBy_of_casefile? (c := linked c r.payload.sessionId e.now) (by simp)] at hcount
    show ServiceAnswer.sessionAdded _ = .sessionAdded _
    rw [← hcount]
  | sessionCreated hscope => trivial
  | @chatReply r id t hid ht =>
    refine ⟨id, e.now, hid, ?_⟩
    have hmessages := messages_of_history h id
    rw [messagesOf_of_session? ht] at hmessages
    have hlength : (answered t r.payload.message e.now).messages.length =
        2 * ((exchanges log id).length + 1) := by
      simp only [answered, List.length_append, hmessages, length_flatMap_messages]
      simp only [List.length_cons, List.length_nil]
      omega
    rw [hlength]
    rfl

theorem counts_of_history {log : List Served} {e : Environment Store} (h : History log e)
    {before : List Served} {q : ServiceRequest} {a : ServiceAnswer}
    (hbefore : before ++ [⟨q, .ok a⟩] <+: log) : Counts before q a := by
  induction h with
  | start hempty => simp at hbefore
  | @call log e e' q' d answer h hrun ih =>
    rcases List.prefix_concat_iff.1 hbefore with heq | hearlier
    · -- the call is the last one
      obtain ⟨rfl, hlast⟩ := List.append_inj' heq rfl
      cases hlast
      obtain ⟨-, ⟨err, herr, -⟩ | ⟨a', ha', heffect⟩⟩ := serve_cases hrun
      · cases herr
      · cases ha'
        exact counts_of_effect h (h.call hrun) heffect
    · exact ih hearlier
  | pause h hstate hunused ih => exact ih hbefore

/-! ## Replay -/

/-- **The store is the replay of its history.** After any history, a session holds the two messages
of each exchange in it, in order, and a casefile lists the sessions that have been linked to it,
each once and in order of its first link. Every chat that succeeded was answered twice the number of the
exchanges in its session up to then, and every link the number of different sessions that had been
linked to its casefile. A call that is no chat in a session does not change its messages, and one that
links nothing to a casefile does not change its list. -/
theorem store_replays_history {log : List Served} {e : Environment Store} (h : History log e) :
    (∀ id, e.state.messagesOf id = (exchanges log id).flatMap Exchange.messages) ∧
    (∀ id, e.state.listedBy id = sessionsLinked log id) ∧
    (∀ before q a, before ++ [⟨q, .ok a⟩] <+: log → Counts before q a) ∧
    (∀ q d answer e', (services.serve q).run d e = (some answer, e') →
      (∀ id, (∀ r, q = .processChat r → r.sessionId ≠ some id) →
        e'.state.messagesOf id = e.state.messagesOf id) ∧
      (∀ id, (∀ r, q = .addSession r → r.payload.casefileId ≠ id) →
        e'.state.listedBy id = e.state.listedBy id)) := by
  refine ⟨messages_of_history h, listed_of_history h,
    fun before q a hbefore => counts_of_history h hbefore, fun q d answer e' hrun => ⟨?_, ?_⟩⟩
  · intro id hother
    rw [messages_of_history (h.call hrun), messages_of_history h, exchanges_append]
    have hnone : (Served.mk q answer).exchange?.toList.filter (·.sessionId = id) = [] := by
      unfold Served.exchange?
      split
      · rename_i r a heq
        cases heq
        cases hid : r.sessionId with
        | none => rfl
        | some m =>
          have hne : m ≠ id := fun heq => hother r rfl (heq ▸ hid)
          simp [hne]
      · rfl
    rw [hnone, List.append_nil]
  · intro id hother
    rw [listed_of_history (h.call hrun), listed_of_history h]
    unfold sessionsLinked
    rw [linkings_append]
    unfold Served.linking?
    split
    · rename_i r a heq
      cases heq
      simp only [Option.toList_some]
      rw [linkedTo_append, if_neg (hother r rfl)]
    · simp

/-- A session is created, talks twice and is linked twice; a chat with nobody fails in between. -/
def conversing : List ServiceRequest :=
  let chat (id text : String) : ServiceRequest := .processChat
    { requestId := "c", operation := "chat.process", payload := ⟨text⟩, sessionId := some id }
  let link : ServiceRequest := .addSession
    { requestId := "l"
      operation := "casefile.add_session"
      payload := ⟨Identifier.casefile 0, Identifier.session 1⟩ }
  [.createCasefile { requestId := "a", operation := "casefile.create", payload := { title := "A" } },
    .createSession { requestId := "s", operation := "tool_session.create", payload := {} },
    chat (Identifier.session 1) "hello", link, chat "ts_none" "lost", link,
    chat (Identifier.session 1) "bye"]

/-- The replay of the calls gives four messages and one linked session. -/
theorem conversing_replays :
    let e := (callAll conversing { state := {} }).2
    History (callAll conversing { state := {} }).1 e ∧
      (e.state.messagesOf (Identifier.session 1)).map (fun m => (m.role, m.content)) =
        [(.user, "hello"), (.assistant, "Received: hello"), (.user, "bye"),
          (.assistant, "Received: bye")] ∧
      e.state.listedBy (Identifier.casefile 0) = [Identifier.session 1] := by
  intro e
  have h : History (callAll conversing { state := {} }).1 e :=
    History.callAll (.start (e := { state := {} }) rfl) conversing
  obtain ⟨hmessages, hlisted, -⟩ := store_replays_history h
  refine ⟨h, ?_, ?_⟩
  · rw [hmessages]
    decide +kernel
  · rw [hlisted]
    decide +kernel

end Store

end CasefileHub
