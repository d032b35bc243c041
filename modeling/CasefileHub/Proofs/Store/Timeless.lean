import CasefileHub.Proofs.Store.Operations
import CasefileHub.Proofs.Table
/-!
# Stores up to their times

Operations write the time down and never look at it. So a store and what it answers are the same up
to times, whenever the operations were performed: without its times, a store has the operations of
the store, without theirs.

    s.timeless.perform n _ q is s.perform n now q without its times              (perform_timeless)
-/

namespace CasefileHub

/-! ## Without times -/

/-- What stands for a time that does not matter. -/
def Timestamp.erased : Timestamp := ⟨0⟩

def Casefile.timeless (c : Casefile) : Casefile :=
  { c with createdAt := .erased, updatedAt := .erased }

def ChatMessage.timeless (m : ChatMessage) : ChatMessage := { m with timestamp := .erased }

def ToolSession.timeless (t : ToolSession) : ToolSession :=
  { t with messages := t.messages.map ChatMessage.timeless, createdAt := .erased }

def ServiceAnswer.timeless : ServiceAnswer → ServiceAnswer
  | .casefileCreated a => .casefileCreated { a with createdAt := .erased }
  | .casefileRead a => .casefileRead ⟨a.casefile.timeless⟩
  | .sessionAdded a => .sessionAdded a
  | .sessionCreated a => .sessionCreated { a with createdAt := .erased }
  | .chatReply a => .chatReply { a with reply := a.reply.timeless }

namespace Store

/-- The store without its times. -/
def timeless (s : Store) : Store where
  casefiles := s.casefiles.map Casefile.timeless
  sessions := s.sessions.map ToolSession.timeless

section
variable (s : Store) (id : String) (c : Casefile) (t : ToolSession)

@[simp] theorem casefile?_timeless :
    s.timeless.casefile? id = (s.casefile? id).map Casefile.timeless := Table.get?_map _ _ id

@[simp] theorem session?_timeless :
    s.timeless.session? id = (s.session? id).map ToolSession.timeless := Table.get?_map _ _ id

theorem timeless_putCasefile :
    (s.putCasefile id c).timeless = s.timeless.putCasefile id c.timeless := by
  unfold timeless putCasefile
  rw [Table.map_insert]

theorem timeless_putSession :
    (s.putSession id t).timeless = s.timeless.putSession id t.timeless := by
  unfold timeless putSession
  rw [Table.map_insert]

theorem timeless_linked (now : Timestamp) :
    (linked c id now).timeless = linked c.timeless id .erased := by
  unfold linked
  by_cases hmem : id ∈ c.sessionIds
  · rw [if_pos hmem, if_pos (show id ∈ c.timeless.sessionIds from hmem)]
  · rw [if_neg hmem, if_neg (show id ∉ c.timeless.sessionIds from hmem)]
    rfl

theorem timeless_inCasefile : (inCasefile t id).timeless = inCasefile t.timeless id := rfl

theorem timeless_answered (text : String) (now : Timestamp) :
    (answered t text now).timeless = answered t.timeless text .erased := by
  simp [answered, ToolSession.timeless, ChatMessage.timeless, reply]

end

/-! ## Which records there are -/

/-- The same records are there, with whatever content. -/
structure SameRecords (s s' : Store) : Prop where
  casefile : ∀ id, (s'.casefile? id).isSome = (s.casefile? id).isSome
  session : ∀ id, (s'.session? id).isSome = (s.session? id).isSome

section
variable {n n' : Nat} {now now' : Timestamp} {s s' : Store} {id : String} {q : ServiceRequest}
  {a : ServiceAnswer} {err : ServiceError}

theorem SameRecords.casefile?_eq_none (h : s.SameRecords s') (hc : s.casefile? id = none) :
    s'.casefile? id = none := by
  rw [← Option.isNone_iff_eq_none, ← Option.not_isSome, h.casefile, hc]
  rfl

theorem SameRecords.exists_session? (h : s.SameRecords s') {t : ToolSession}
    (ht : s.session? id = some t) : ∃ t', s'.session? id = some t' := by
  rw [← Option.isSome_iff_exists, h.session, ht]
  rfl

theorem SameRecords.session?_eq_none (h : s.SameRecords s') (ht : s.session? id = none) :
    s'.session? id = none := by
  rw [← Option.isNone_iff_eq_none, ← Option.not_isSome, h.session, ht]
  rfl

theorem sameRecords_timeless (s : Store) : s.SameRecords s.timeless where
  casefile id := by rw [casefile?_timeless, Option.isSome_map]
  session id := by rw [session?_timeless, Option.isSome_map]

/-- Whether an operation fails, and with which error, depends on which records there are only. -/
theorem SameRecords.perform_error (h : s.SameRecords s') (hq : s.perform n now q = .error err) :
    s'.perform n' now' q = .error err := by
  cases q with
  | createCasefile r =>
    simp only [perform, createCasefile_eq] at hq ⊢
    split at hq
    · rename_i htitle
      rw [if_pos htitle]
      exact hq
    · cases hq
  | getCasefile r =>
    simp only [perform, getCasefile] at hq ⊢
    cases hc : s.casefile? r.payload.casefileId with
    | some c =>
      rw [hc] at hq
      cases hq
    | none =>
      rw [hc] at hq
      rw [h.casefile?_eq_none hc]
      exact hq
  | addSession r =>
    simp only [perform, addSession] at hq ⊢
    cases ht : s.session? r.payload.sessionId with
    | none =>
      rw [ht] at hq
      rw [h.session?_eq_none ht]
      exact hq
    | some t =>
      obtain ⟨t', ht'⟩ := h.exists_session? ht
      cases hc : s.casefile? r.payload.casefileId with
      | some c =>
        rw [ht, hc] at hq
        cases hq
      | none =>
        rw [ht, hc] at hq
        rw [ht', h.casefile?_eq_none hc]
        exact hq
  | createSession r =>
    have hmissing : (fun id => !s'.casefiles.contains id) = fun id => !s.casefiles.contains id :=
      funext fun id => congrArg (!·) (h.casefile id)
    simp only [perform, createSession, hmissing] at hq ⊢
    split at hq
    · exact hq
    · cases hq
  | processChat r =>
    simp only [perform, processChat] at hq ⊢
    cases hid : r.sessionId with
    | none =>
      rw [hid] at hq
      exact hq
    | some id =>
      simp only [hid] at hq ⊢
      cases ht : s.session? id with
      | some t =>
        rw [ht] at hq
        cases hq
      | none =>
        rw [ht] at hq
        rw [h.session?_eq_none ht]
        exact hq

/-! ## Operations without times -/

theorem Effect.timeless (h : Effect n now s q a s') :
    Effect n .erased s.timeless q a.timeless s'.timeless := by
  cases h with
  | casefileCreated htitle =>
    rw [timeless_putCasefile]
    exact .casefileCreated htitle
  | casefileRead hc => exact .casefileRead (by rw [casefile?_timeless, hc]; rfl)
  | @sessionAdded r c t hc ht =>
    have heffect : Effect n .erased s.timeless (.addSession r) _ _ :=
      .sessionAdded (c := c.timeless) (t := t.timeless) (by rw [casefile?_timeless, hc]; rfl)
        (by rw [session?_timeless, ht]; rfl)
    rw [← timeless_linked _ c now] at heffect
    rw [timeless_putSession, timeless_putCasefile, timeless_inCasefile]
    exact heffect
  | sessionCreated hscope =>
    rw [timeless_putSession]
    exact .sessionCreated fun id hid => by
      rw [casefile?_timeless, Option.isSome_map]
      exact hscope id hid
  | @chatReply r id t hid ht =>
    have heffect : Effect n .erased s.timeless (.processChat r) _ _ :=
      .chatReply (t := t.timeless) hid (by rw [session?_timeless, ht]; rfl)
    rw [← timeless_answered t _ now] at heffect
    rw [timeless_putSession]
    have hcount : (answered t r.payload.message now).timeless.messages.length =
        (answered t r.payload.message now).messages.length := List.length_map _
    rw [hcount] at heffect
    exact heffect

/-- **Operations do not look at times.** Without its times, a store has the same operations. -/
theorem perform_timeless (n : Nat) (now : Timestamp) (s : Store) (q : ServiceRequest) :
    s.timeless.perform n .erased q =
      (s.perform n now q).map (Prod.map ServiceAnswer.timeless Store.timeless) := by
  cases hp : s.perform n now q with
  | error err => exact (sameRecords_timeless s).perform_error hp
  | ok p => exact perform_of_effect (effect_of_perform hp).timeless

end

end Store

end CasefileHub
