import CasefileHub.Proofs.Identifier
import CasefileHub.Proofs.Store.Operations
import CasefileHub.Proofs.Table
/-!
# Integrity of the store

A store is sound if its records are stored under their own ids, refer to records that are there, and
have proper titles. It grows if nothing is removed, and lists of sessions and messages are continued
only. Every operation that succeeds makes a sound store grow to a sound store, provided that the
number for its identifier is fresh; and so does any sequence of them:

    Effect n now s q a s' → s.Fresh n → s.GrowsTo s'                       (growsTo_of_effect)
    Effect n now s q a s' → s.Fresh n → s.Sound → s'.Sound                   (sound_of_effect)
    Evolves s n s' n' → s.Fresh n → s.Sound → s'.Sound ∧ s.GrowsTo s'          (Evolves.sound)
-/

namespace CasefileHub.Store

variable {s s' s'' : Store} {n n' m : Nat} {id : String} {c : Casefile} {t : ToolSession}

/-! ## Growth -/

/-- Every record is kept. The sessions of a casefile and the messages of a session may go on. -/
structure GrowsTo (s s' : Store) : Prop where
  casefiles : s.casefiles.Keeps (fun c c' => c.sessionIds <+: c'.sessionIds) s'.casefiles
  sessions : s.sessions.Keeps (fun t t' => t.messages <+: t'.messages) s'.sessions

namespace GrowsTo

theorem refl (s : Store) : s.GrowsTo s where
  casefiles := .refl (fun c => List.prefix_refl c.sessionIds) s.casefiles
  sessions := .refl (fun t => List.prefix_refl t.messages) s.sessions

theorem trans (h : s.GrowsTo s') (h' : s'.GrowsTo s'') : s.GrowsTo s'' where
  casefiles := h.casefiles.trans List.IsPrefix.trans h'.casefiles
  sessions := h.sessions.trans List.IsPrefix.trans h'.sessions

theorem putCasefile (h : ∀ old, s.casefile? id = some old → old.sessionIds <+: c.sessionIds) :
    s.GrowsTo (s.putCasefile id c) where
  casefiles := .insert (fun c => List.prefix_refl c.sessionIds) h
  sessions := .refl (fun t => List.prefix_refl t.messages) s.sessions

theorem putSession (h : ∀ old, s.session? id = some old → old.messages <+: t.messages) :
    s.GrowsTo (s.putSession id t) where
  casefiles := .refl (fun c => List.prefix_refl c.sessionIds) s.casefiles
  sessions := .insert (fun t => List.prefix_refl t.messages) h

end GrowsTo

/-! ## Soundness -/

/-- What holds of a casefile that is stored under an id. -/
structure CasefileSound (s : Store) (id : String) (c : Casefile) : Prop where
  id_eq : c.id = id
  title_ne : c.title ≠ ""
  title_trimmed : Text.trim c.title = c.title
  nodup : c.sessionIds.Nodup
  listed : ∀ sessionId ∈ c.sessionIds, (s.session? sessionId).isSome

/-- What holds of a session that is stored under an id. -/
structure SessionSound (s : Store) (id : String) (t : ToolSession) : Prop where
  id_eq : t.id = id
  scope : ∀ casefileId, t.casefileId = some casefileId → (s.casefile? casefileId).isSome

/-- Every record is sound. -/
structure Sound (s : Store) : Prop where
  casefiles : s.casefiles.All (CasefileSound s)
  sessions : s.sessions.All (SessionSound s)

theorem sound_empty : ({} : Store).Sound where
  casefiles := Table.all_empty
  sessions := Table.all_empty

theorem CasefileSound.grow (h : CasefileSound s id c) (hgrows : s.GrowsTo s') :
    CasefileSound s' id c :=
  { h with listed := fun sessionId hmem => hgrows.sessions.isSome (h.listed sessionId hmem) }

theorem SessionSound.grow (h : SessionSound s id t) (hgrows : s.GrowsTo s') :
    SessionSound s' id t :=
  { h with scope := fun casefileId hc => hgrows.casefiles.isSome (h.scope casefileId hc) }

/-- A store stays sound with a sound casefile more. -/
theorem Sound.putCasefile (h : s.Sound) (hgrows : s.GrowsTo (s.putCasefile id c))
    (hc : CasefileSound s id c) : (s.putCasefile id c).Sound where
  casefiles := (h.casefiles.mono fun _ _ hold => hold.grow hgrows).insert (hc.grow hgrows)
  sessions := h.sessions.mono fun _ _ hold => hold.grow hgrows

/-- A store stays sound with a sound session more. -/
theorem Sound.putSession (h : s.Sound) (hgrows : s.GrowsTo (s.putSession id t))
    (ht : SessionSound s id t) : (s.putSession id t).Sound where
  casefiles := h.casefiles.mono fun _ _ hold => hold.grow hgrows
  sessions := (h.sessions.mono fun _ _ hold => hold.grow hgrows).insert (ht.grow hgrows)

/-! ## Fresh numbers -/

/-- An identifier of a number below a bound. -/
def Used (identifier : Nat → String) (n : Nat) (id : String) : Prop := ∃ k < n, id = identifier k

theorem Used.mono {identifier : Nat → String} (h : Used identifier n id) (hle : n ≤ m) :
    Used identifier m id := by
  obtain ⟨k, hk, hid⟩ := h
  exact ⟨k, Nat.lt_of_lt_of_le hk hle, hid⟩

/-- The identifiers in the store come from numbers below a bound. -/
structure Fresh (s : Store) (n : Nat) : Prop where
  casefiles : s.casefiles.All fun id _ => Used Identifier.casefile n id
  sessions : s.sessions.All fun id _ => Used Identifier.session n id

theorem fresh_empty (n : Nat) : ({} : Store).Fresh n where
  casefiles := Table.all_empty
  sessions := Table.all_empty

namespace Fresh

theorem mono (h : s.Fresh n) (hle : n ≤ m) : s.Fresh m where
  casefiles := h.casefiles.mono fun _ _ hold => hold.mono hle
  sessions := h.sessions.mono fun _ _ hold => hold.mono hle

theorem casefile?_eq_none (h : s.Fresh n) : s.casefile? (Identifier.casefile n) = none := by
  refine Option.eq_none_iff_forall_ne_some.2 fun c hc => ?_
  obtain ⟨k, hk, hid⟩ := h.casefiles _ c hc
  rw [Identifier.casefile_inj] at hid
  omega

theorem session?_eq_none (h : s.Fresh n) : s.session? (Identifier.session n) = none := by
  refine Option.eq_none_iff_forall_ne_some.2 fun t ht => ?_
  obtain ⟨k, hk, hid⟩ := h.sessions _ t ht
  rw [Identifier.session_inj] at hid
  omega

theorem putCasefile (h : s.Fresh n) (hid : Used Identifier.casefile n id) :
    (s.putCasefile id c).Fresh n where
  casefiles := h.casefiles.insert hid
  sessions := h.sessions

theorem putSession (h : s.Fresh n) (hid : Used Identifier.session n id) :
    (s.putSession id t).Fresh n where
  casefiles := h.casefiles
  sessions := h.sessions.insert hid

end Fresh

/-! ## Linked casefiles -/

section
variable (c : Casefile) (sessionId : String) (now : Timestamp)

theorem sessionIds_linked :
    (linked c sessionId now).sessionIds =
      if sessionId ∈ c.sessionIds then c.sessionIds else c.sessionIds ++ [sessionId] := by
  unfold linked
  split <;> rfl

@[simp] theorem id_linked : (linked c sessionId now).id = c.id := by
  unfold linked
  split <;> rfl

@[simp] theorem title_linked : (linked c sessionId now).title = c.title := by
  unfold linked
  split <;> rfl

theorem prefix_linked : c.sessionIds <+: (linked c sessionId now).sessionIds := by
  rw [sessionIds_linked]
  split
  · exact List.prefix_refl _
  · exact List.prefix_append _ _

theorem mem_linked {other : String} :
    other ∈ (linked c sessionId now).sessionIds ↔ other ∈ c.sessionIds ∨ other = sessionId := by
  rw [sessionIds_linked]
  split
  · rename_i hmem
    exact ⟨.inl, fun h => h.elim (fun h => h) fun heq => heq ▸ hmem⟩
  · simp

end

theorem nodup_linked {sessionId : String} {now : Timestamp} (h : c.sessionIds.Nodup) :
    (linked c sessionId now).sessionIds.Nodup := by
  rw [sessionIds_linked]
  split
  · exact h
  · rename_i hmem
    refine List.nodup_append.2 ⟨h, by simp, fun other hother last hlast => ?_⟩
    rw [List.mem_singleton] at hlast
    rintro rfl
    exact hmem (hlast ▸ hother)

theorem CasefileSound.link (h : CasefileSound s id c) {sessionId : String}
    (hsession : (s.session? sessionId).isSome) (now : Timestamp) :
    CasefileSound s id (linked c sessionId now) where
  id_eq := by rw [id_linked, h.id_eq]
  title_ne := by rw [title_linked]; exact h.title_ne
  title_trimmed := by rw [title_linked, h.title_trimmed]
  nodup := nodup_linked h.nodup
  listed other hother := by
    rcases (mem_linked c sessionId now).1 hother with hold | rfl
    · exact h.listed other hold
    · exact hsession

/-! ## One operation -/

section
variable {now : Timestamp} {q : ServiceRequest} {a : ServiceAnswer}

theorem GrowsTo.link (hc : s.casefile? id = some c) (sessionId : String) :
    s.GrowsTo (s.putCasefile id (linked c sessionId now)) :=
  .putCasefile fun old hold => by
    rw [hc] at hold
    cases hold
    exact prefix_linked c sessionId now

theorem GrowsTo.move (ht : s.session? id = some t) (casefileId : String) :
    s.GrowsTo (s.putSession id (inCasefile t casefileId)) :=
  .putSession fun old hold => by
    rw [ht] at hold
    cases hold
    exact List.prefix_refl _

theorem GrowsTo.answer (ht : s.session? id = some t) (text : String) :
    s.GrowsTo (s.putSession id (answered t text now)) :=
  .putSession fun old hold => by
    rw [ht] at hold
    cases hold
    exact List.prefix_append _ _

theorem GrowsTo.newCasefile (h : s.Fresh n) : s.GrowsTo (s.putCasefile (Identifier.casefile n) c) :=
  .putCasefile fun old hold => by
    rw [h.casefile?_eq_none] at hold
    cases hold

theorem GrowsTo.newSession (h : s.Fresh n) : s.GrowsTo (s.putSession (Identifier.session n) t) :=
  .putSession fun old hold => by
    rw [h.session?_eq_none] at hold
    cases hold

/-- No operation removes or shortens anything. -/
theorem growsTo_of_effect (h : Effect n now s q a s') (hfresh : s.Fresh n) : s.GrowsTo s' := by
  cases h with
  | casefileCreated htitle => exact .newCasefile hfresh
  | casefileRead hc => exact .refl s
  | sessionAdded hc ht => exact (GrowsTo.link hc _).trans (.move (s := s.putCasefile _ _) ht _)
  | sessionCreated hscope => exact .newSession hfresh
  | chatReply hid ht => exact .answer ht _

theorem fresh_of_effect (h : Effect n now s q a s') (hfresh : s.Fresh n) :
    s'.Fresh (n + q.numbers) := by
  cases h with
  | casefileCreated htitle =>
    exact (hfresh.mono (Nat.le_succ n)).putCasefile ⟨n, Nat.lt_succ_self n, rfl⟩
  | casefileRead hc => exact hfresh
  | sessionAdded hc ht =>
    -- both records stand under ids that are in the store
    exact (hfresh.putCasefile (hfresh.casefiles _ _ hc)).putSession (hfresh.sessions _ _ ht)
  | sessionCreated hscope =>
    exact (hfresh.mono (Nat.le_succ n)).putSession ⟨n, Nat.lt_succ_self n, rfl⟩
  | chatReply hid ht => exact hfresh.putSession (hfresh.sessions _ _ ht)

/-- An operation leaves a sound store behind. Each checks that the records are there which it refers
to, before it changes anything. -/
theorem sound_of_effect (h : Effect n now s q a s') (hfresh : s.Fresh n) (hsound : s.Sound) :
    s'.Sound := by
  cases h with
  | casefileCreated htitle =>
    refine hsound.putCasefile (.newCasefile hfresh) ?_
    exact ⟨rfl, htitle, Text.trim_trim _, List.nodup_nil, fun _ hmem => by cases hmem⟩
  | casefileRead hc => exact hsound
  | @sessionAdded r c t hc ht =>
    have hlink : s.GrowsTo (s.putCasefile r.payload.casefileId
        (linked c r.payload.sessionId now)) := .link hc _
    have hcasefile := (hsound.casefiles _ _ hc).link (by rw [ht]; rfl) now
    have hsession := (hsound.sessions _ _ ht).grow hlink
    refine (hsound.putCasefile hlink hcasefile).putSession
      (.move (s := s.putCasefile _ _) ht _) ⟨hsession.id_eq, ?_⟩
    intro casefileId heq
    cases heq
    simp
  | sessionCreated hscope => exact hsound.putSession (.newSession hfresh) ⟨rfl, hscope⟩
  | chatReply hid ht =>
    have hsession := hsound.sessions _ _ ht
    exact hsound.putSession (.answer ht _) ⟨hsession.id_eq, hsession.scope⟩

end

/-! ## Sequences of operations -/

/-- What calls of the services can make, in any order, of a store and of the next unused number.
Numbers may be used up for other things in between. -/
inductive Evolves (s : Store) (n : Nat) : Store → Nat → Prop
  | refl : Evolves s n s n
  | take {s' : Store} {n' m : Nat} (h : Evolves s n s' n') (hle : n' ≤ m) : Evolves s n s' m
  | perform {s' s'' : Store} {n' : Nat} {now : Timestamp} {q : ServiceRequest} {a : ServiceAnswer}
      (h : Evolves s n s' n') (heffect : Effect n' now s' q a s'') :
      Evolves s n s'' (n' + q.numbers)

theorem Evolves.trans {n'' : Nat} (h : Evolves s n s' n') (h' : Evolves s' n' s'' n'') :
    Evolves s n s'' n'' := by
  induction h' with
  | refl => exact h
  | take _ hle ih => exact ih.take hle
  | perform _ heffect ih => exact ih.perform heffect

/-- A sound store evolves to sound stores, and only grows. -/
theorem Evolves.sound (h : Evolves s n s' n') (hfresh : s.Fresh n) (hsound : s.Sound) :
    s'.Fresh n' ∧ s'.Sound ∧ s.GrowsTo s' := by
  induction h with
  | refl => exact ⟨hfresh, hsound, .refl s⟩
  | take _ hle ih =>
    obtain ⟨hf, hs, hg⟩ := ih
    exact ⟨hf.mono hle, hs, hg⟩
  | perform _ heffect ih =>
    obtain ⟨hf, hs, hg⟩ := ih
    exact ⟨fresh_of_effect heffect hf, sound_of_effect heffect hf hs,
      hg.trans (growsTo_of_effect heffect hf)⟩

end CasefileHub.Store
