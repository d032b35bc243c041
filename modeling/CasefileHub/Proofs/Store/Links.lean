import CasefileHub.Proofs.Store.History
/-!
# Links between casefiles and sessions

A link stands in two places: the casefile lists the session, and the session names the casefile. A
call that links a session writes both, but a session that had been linked to another casefile stays
in the list of that one. In every history the casefiles list the sessions that have been linked to
them, each once and in order of its first link, and a session that has been linked names the casefile
of its last link. So the two places agree exactly as long as no session is linked to two casefiles:

    History log e → Recorded (links log) e.state                             (recorded_of_history)
    History log e → (e.state.LinksAgree ↔ NeverRelinked (links log))  (links_agree_iff_never_relinked)
-/

namespace CasefileHub

/-- A casefile and a session that is linked to it, by their ids. -/
structure Link where
  casefileId : String
  sessionId : String
deriving DecidableEq, Repr

/-- The link that an answer confirms. -/
def ServiceAnswer.link? : ServiceAnswer → Option Link
  | .sessionAdded a => some ⟨a.casefileId, a.sessionId⟩
  | _ => none

def Served.link? (v : Served) : Option Link := v.answer.toOption.bind ServiceAnswer.link?

namespace Store

/-! ## Links of a history -/

/-- The links that have been made, in order. -/
def links (log : List Served) : List Link := log.filterMap Served.link?

/-- The sessions that have been linked to a casefile, in order. -/
def linkedTo (ls : List Link) (casefileId : String) : List String :=
  (ls.filter (·.casefileId = casefileId)).map Link.sessionId

/-- The casefile that a session has been linked to last. -/
def lastCasefile (ls : List Link) (sessionId : String) : Option String :=
  (ls.filter (·.sessionId = sessionId)).getLast?.map Link.casefileId

/-- No session has been linked to two casefiles. -/
def NeverRelinked (ls : List Link) : Prop :=
  ∀ l ∈ ls, ∀ l' ∈ ls, l.sessionId = l'.sessionId → l.casefileId = l'.casefileId

instance (ls : List Link) : Decidable (NeverRelinked ls) :=
  inferInstanceAs (Decidable (∀ l ∈ ls, ∀ l' ∈ ls, l.sessionId = l'.sessionId →
    l.casefileId = l'.casefileId))

section
variable (ls : List Link) (l : Link) {casefileId sessionId : String}

theorem links_failure (log : List Served) (q : ServiceRequest) (err : ServiceError) :
    links (log ++ [⟨q, .error err⟩]) = links log := by
  simp [links, Served.link?, Except.toOption]

theorem links_success (log : List Served) (q : ServiceRequest) (a : ServiceAnswer) :
    links (log ++ [⟨q, .ok a⟩]) = links log ++ a.link?.toList := by
  cases h : a.link? <;> simp [links, Served.link?, Except.toOption, h]

theorem mem_linkedTo : sessionId ∈ linkedTo ls casefileId ↔ ⟨casefileId, sessionId⟩ ∈ ls := by
  simp only [linkedTo, List.mem_map, List.mem_filter, decide_eq_true_eq]
  constructor
  · rintro ⟨l, ⟨hmem, rfl⟩, rfl⟩
    exact hmem
  · exact fun hmem => ⟨_, ⟨hmem, rfl⟩, rfl⟩

theorem linkedTo_append :
    linkedTo (ls ++ [l]) casefileId =
      if l.casefileId = casefileId then linkedTo ls casefileId ++ [l.sessionId]
      else linkedTo ls casefileId := by
  by_cases h : l.casefileId = casefileId <;> simp [linkedTo, h]

theorem lastCasefile_append :
    lastCasefile (ls ++ [l]) sessionId =
      if l.sessionId = sessionId then some l.casefileId else lastCasefile ls sessionId := by
  by_cases h : l.sessionId = sessionId <;> simp [lastCasefile, h]

theorem mem_of_lastCasefile (h : lastCasefile ls sessionId = some casefileId) :
    ⟨casefileId, sessionId⟩ ∈ ls := by
  obtain ⟨l, hl, rfl⟩ := Option.map_eq_some_iff.1 h
  have hmem := List.mem_filter.1 (List.mem_of_getLast? hl)
  rw [decide_eq_true_eq] at hmem
  exact hmem.2 ▸ hmem.1

theorem lastCasefile_isSome (h : ⟨casefileId, sessionId⟩ ∈ ls) :
    (lastCasefile ls sessionId).isSome := by
  unfold lastCasefile
  rw [Option.isSome_map, Option.isSome_iff_ne_none, Ne, List.getLast?_eq_none_iff]
  exact List.ne_nil_of_mem (List.mem_filter.2 ⟨h, by simp⟩)

/-- The first occurrences, with one more at the end. -/
theorem eraseDups_concat (ids : List String) (id : String) :
    (ids ++ [id]).eraseDups =
      if id ∈ ids.eraseDups then ids.eraseDups else ids.eraseDups ++ [id] := by
  rw [List.eraseDups_append]
  by_cases h : id ∈ ids
  · simp [h, List.removeAll]
  · simp [h, List.removeAll, List.eraseDups_cons]

end

/-! ## What the store keeps of the links -/

/-- The store after some links. -/
structure Recorded (ls : List Link) (s : Store) : Prop where
  /-- A casefile lists what has been linked to it, each session where it came first. -/
  listed : s.casefiles.All fun id c => c.sessionIds = (linkedTo ls id).eraseDups
  /-- The casefiles of links are there. -/
  present : ∀ l ∈ ls, (s.casefile? l.casefileId).isSome
  /-- A linked session names the casefile of its last link. -/
  last : ∀ sessionId id, lastCasefile ls sessionId = some id →
    ∃ t, s.session? sessionId = some t ∧ t.casefileId = some id

section
variable {ls : List Link} {s s' : Store} {n : Nat} {id : String} {c : Casefile} {t : ToolSession}

theorem recorded_empty : Recorded [] {} where
  listed := Table.all_empty
  present l hl := by cases hl
  last sessionId id hlast := by cases hlast

/-- Nothing has been linked to a casefile that is not there. -/
theorem Recorded.linkedTo_eq_nil (h : Recorded ls s) (hc : s.casefile? id = none) :
    linkedTo ls id = [] := by
  refine List.eq_nil_iff_forall_not_mem.2 fun sessionId hmem => ?_
  have hpresent := h.present _ ((mem_linkedTo ls).1 hmem)
  rw [hc] at hpresent
  cases hpresent

theorem Recorded.putCasefile (h : Recorded ls s) (hnew : s.casefile? id = none)
    (hempty : c.sessionIds = []) : Recorded ls (s.putCasefile id c) where
  listed := h.listed.insert (by rw [hempty, h.linkedTo_eq_nil hnew]; rfl)
  present l hl := by
    rw [casefile?_putCasefile]
    split
    · rfl
    · exact h.present l hl
  last := h.last

/-- A session that stays in its casefile, or is new, makes no difference. -/
theorem Recorded.putSession (h : Recorded ls s)
    (hsame : ∀ old, s.session? id = some old → t.casefileId = old.casefileId) :
    Recorded ls (s.putSession id t) where
  listed := h.listed
  present := h.present
  last sessionId m hlast := by
    obtain ⟨old, hold, hm⟩ := h.last sessionId m hlast
    rw [session?_putSession]
    split
    · rename_i heq
      exact ⟨t, rfl, (hsame old (heq ▸ hold)).trans hm⟩
    · exact ⟨old, hold, hm⟩

/-- One link more, in both places. -/
theorem Recorded.link (h : Recorded ls s) {casefileId sessionId : String}
    (hc : s.casefile? casefileId = some c) (now : Timestamp) :
    Recorded (ls ++ [⟨casefileId, sessionId⟩])
      ((s.putCasefile casefileId (linked c sessionId now)).putSession sessionId
        (inCasefile t casefileId)) where
  listed := by
    refine .replace (fun m old hm hold => ?_) ?_
    · rw [linkedTo_append, if_neg (Ne.symm hm)]
      exact h.listed m old hold
    · rw [linkedTo_append, if_pos rfl, sessionIds_linked, h.listed _ _ hc, eraseDups_concat]
  present l hl := by
    rw [casefile?_putSession, casefile?_putCasefile]
    split
    · rfl
    · rename_i hne
      rcases List.mem_append.1 hl with hold | hlast
      · exact h.present l hold
      · cases List.mem_singleton.1 hlast
        exact absurd rfl hne
  last other m hlast := by
    rw [lastCasefile_append] at hlast
    rw [session?_putSession, session?_putCasefile]
    by_cases heq : sessionId = other
    · rw [if_pos heq] at hlast
      rw [if_pos heq.symm]
      exact ⟨_, rfl, hlast⟩
    · rw [if_neg heq] at hlast
      rw [if_neg (Ne.symm heq)]
      exact h.last other m hlast

theorem Recorded.append_none {a : ServiceAnswer} (h : Recorded ls s) (hnone : a.link? = none) :
    Recorded (ls ++ a.link?.toList) s := by
  rw [hnone, Option.toList_none, List.append_nil]
  exact h

theorem Recorded.effect {now : Timestamp} {q : ServiceRequest} {a : ServiceAnswer}
    (h : Recorded ls s) (hfresh : s.Fresh n) (heffect : Effect n now s q a s') :
    Recorded (ls ++ a.link?.toList) s' := by
  cases heffect with
  | casefileCreated htitle => exact .append_none (h.putCasefile hfresh.casefile?_eq_none rfl) rfl
  | casefileRead hc => exact .append_none h rfl
  | sessionAdded hc ht => exact h.link hc now
  | sessionCreated hscope =>
    refine .append_none (h.putSession fun old hold => ?_) rfl
    rw [hfresh.session?_eq_none] at hold
    cases hold
  | chatReply hid ht =>
    refine .append_none (h.putSession fun old hold => ?_) rfl
    rw [ht] at hold
    cases hold
    rfl

theorem recorded_of_history {log : List Served} {e : Environment Store} (h : History log e) :
    Recorded (links log) e.state := by
  refine History.induction (P := fun log s => Recorded (links log) s) recorded_empty ?_ ?_ h
  · intro log s q err hrec
    rw [links_failure]
    exact hrec
  · intro log n now s q a s' hfresh _ heffect hrec
    rw [links_success]
    exact hrec.effect hfresh heffect

end

/-! ## Agreement -/

/-- A session that a casefile lists names that casefile. -/
def LinksAgree (s : Store) : Prop :=
  ∀ id c, s.casefile? id = some c → ∀ sessionId ∈ c.sessionIds,
    ∃ t, s.session? sessionId = some t ∧ t.casefileId = some id

/-- No session is listed by two casefiles. -/
def ListedApart (s : Store) : Prop :=
  ∀ id c id' c', s.casefile? id = some c → s.casefile? id' = some c' →
    ∀ sessionId ∈ c.sessionIds, sessionId ∈ c'.sessionIds → id = id'

namespace Recorded

variable {ls : List Link} {s : Store} {id sessionId : String} {c : Casefile}

theorem mem_iff (h : Recorded ls s) (hc : s.casefile? id = some c) :
    sessionId ∈ c.sessionIds ↔ ⟨id, sessionId⟩ ∈ ls := by
  rw [h.listed id c hc, List.mem_eraseDups, mem_linkedTo]

/-- A linked session is listed by the casefile of the link. -/
theorem exists_listing (h : Recorded ls s) {l : Link} (hl : l ∈ ls) :
    ∃ c, s.casefile? l.casefileId = some c ∧ l.sessionId ∈ c.sessionIds := by
  obtain ⟨c, hc⟩ := Option.isSome_iff_exists.1 (h.present l hl)
  exact ⟨c, hc, (h.mem_iff hc).2 hl⟩

/-- A listed session names the casefile of its last link, whichever casefile lists it. -/
theorem names_last (h : Recorded ls s) (hc : s.casefile? id = some c)
    (hmem : sessionId ∈ c.sessionIds) :
    ∃ t last, s.session? sessionId = some t ∧ t.casefileId = some last ∧
      lastCasefile ls sessionId = some last := by
  obtain ⟨last, hlast⟩ := Option.isSome_iff_exists.1
    (lastCasefile_isSome ls ((h.mem_iff hc).1 hmem))
  obtain ⟨t, ht, hscope⟩ := h.last sessionId last hlast
  exact ⟨t, last, ht, hscope, hlast⟩

theorem links_agree_iff (h : Recorded ls s) : s.LinksAgree ↔ NeverRelinked ls := by
  constructor
  · intro hagree l hl l' hl' hsession
    obtain ⟨c, hc, hmem⟩ := h.exists_listing hl
    obtain ⟨c', hc', hmem'⟩ := h.exists_listing hl'
    obtain ⟨t, ht, hscope⟩ := hagree _ c hc _ hmem
    obtain ⟨t', ht', hscope'⟩ := hagree _ c' hc' _ hmem'
    rw [← hsession, ht] at ht'
    cases ht'
    exact Option.some.inj (hscope.symm.trans hscope')
  · intro hnever id c hc sessionId hmem
    obtain ⟨t, last, ht, hscope, hlast⟩ := h.names_last hc hmem
    have hsame : last = id :=
      hnever _ (mem_of_lastCasefile ls hlast) _ ((h.mem_iff hc).1 hmem) rfl
    exact ⟨t, ht, hsame ▸ hscope⟩

theorem listed_apart_iff (h : Recorded ls s) : s.ListedApart ↔ NeverRelinked ls := by
  constructor
  · intro hapart l hl l' hl' hsession
    obtain ⟨c, hc, hmem⟩ := h.exists_listing hl
    obtain ⟨c', hc', hmem'⟩ := h.exists_listing hl'
    exact hapart _ c _ c' hc hc' _ hmem (hsession ▸ hmem')
  · intro hnever id c id' c' hc hc' sessionId hmem hmem'
    exact hnever _ ((h.mem_iff hc).1 hmem) _ ((h.mem_iff hc').1 hmem') rfl

end Recorded

/-- **Links agree until a session is relinked.** After any history, every session that is listed is
there and names the casefile that it was linked to last. So the sessions name the casefiles that list
them, and no two casefiles list one session, exactly if no session has been linked to two casefiles:
a later link to another casefile takes the session over, but leaves it in the list of the earlier
one. -/
theorem links_agree_iff_never_relinked {log : List Served} {e : Environment Store}
    (h : History log e) :
    (e.state.LinksAgree ↔ NeverRelinked (links log)) ∧
      (e.state.ListedApart ↔ NeverRelinked (links log)) ∧
      ∀ id c, e.state.casefile? id = some c → ∀ sessionId ∈ c.sessionIds,
        ∃ t last, e.state.session? sessionId = some t ∧ t.casefileId = some last ∧
          lastCasefile (links log) sessionId = some last := by
  have hrec := recorded_of_history h
  exact ⟨hrec.links_agree_iff, hrec.listed_apart_iff, fun id c hc sessionId hmem =>
    hrec.names_last hc hmem⟩

/-- Two casefiles and a session are created, and the session is linked to casefiles by number. -/
def linking (casefiles : List Nat) : List ServiceRequest :=
  [.createCasefile { requestId := "a", operation := "casefile.create", payload := { title := "A" } },
    .createCasefile { requestId := "b", operation := "casefile.create", payload := { title := "B" } },
    .createSession { requestId := "s", operation := "tool_session.create", payload := {} }] ++
  casefiles.map fun n => .addSession
    { requestId := "l"
      operation := "casefile.add_session"
      payload := ⟨Identifier.casefile n, Identifier.session 2⟩ }

/-- The calls of a linking, and where they lead. -/
def linkedIn (casefiles : List Nat) : List Served × Environment Store :=
  callAll (linking casefiles) { state := {} }

theorem history_linkedIn (casefiles : List Nat) :
    History (linkedIn casefiles).1 (linkedIn casefiles).2 :=
  History.callAll (.start (e := { state := {} }) rfl) (linking casefiles)

/-- A link that is repeated does no harm. -/
theorem links_agree_when_repeated :
    History (linkedIn [1, 1]).1 (linkedIn [1, 1]).2 ∧ (linkedIn [1, 1]).2.state.LinksAgree := by
  obtain ⟨hagree, -, -⟩ := links_agree_iff_never_relinked (history_linkedIn [1, 1])
  exact ⟨history_linkedIn _, hagree.2 (by decide +kernel)⟩

/-- A session that is linked to one casefile and then to another is listed by both, and names the
second. -/
theorem links_disagree_when_relinked :
    History (linkedIn [0, 1]).1 (linkedIn [0, 1]).2 ∧ ¬ (linkedIn [0, 1]).2.state.LinksAgree ∧
      ¬ (linkedIn [0, 1]).2.state.ListedApart := by
  have hlists : ∀ n ∈ [0, 1],
      ((linkedIn [0, 1]).2.state.casefile? (Identifier.casefile n)).map Casefile.sessionIds =
        some [Identifier.session 2] := by decide +kernel
  have hnames : ((linkedIn [0, 1]).2.state.session? (Identifier.session 2)).map
      ToolSession.casefileId = some (some (Identifier.casefile 1)) := by decide +kernel
  obtain ⟨first, hfirst, hlisted⟩ := Option.map_eq_some_iff.1 (hlists 0 (by simp))
  obtain ⟨second, hsecond, hlisted'⟩ := Option.map_eq_some_iff.1 (hlists 1 (by simp))
  obtain ⟨t, ht, hscope⟩ := Option.map_eq_some_iff.1 hnames
  have hmem : Identifier.session 2 ∈ first.sessionIds := by simp [hlisted]
  have hmem' : Identifier.session 2 ∈ second.sessionIds := by simp [hlisted']
  refine ⟨history_linkedIn _, fun hagree => ?_, fun hapart => ?_⟩
  · obtain ⟨t', ht', hscope'⟩ := hagree _ first hfirst _ hmem
    rw [ht] at ht'
    cases ht'
    rw [hscope] at hscope'
    simp at hscope'
  · have hsame := hapart _ first _ second hfirst hsecond _ hmem hmem'
    simp at hsame

end Store

end CasefileHub
