import CasefileHub.Proofs.Store.Renaming
import CasefileHub.Proofs.Workflow.Effects
/-!
# The same call again

What calls of the services and of the workflow do depends on the store and on the content of their
requests, but for identifiers and times. The same call from the same store, with other numbers, at
another time and for a request of another id, fails with the same error, or succeeds and leaves a
store behind that matches under a renaming of what is new. The parts of the workflow, by whichever
requests, do what the workflow does:

    Composed p user s k m s₁ → Composed p user s' k' m' s₁' → s₁.Matches ρ s₁'  (Composed.matching)
    services.serve q repeats, the workflow repeats                 (serve_repeats, workflow_repeats)
-/

namespace CasefileHub

/-! ## Parts -/

namespace Workflow

variable {ρ : Renaming} {p : CreateCasefileWithSession} {user : Option String} {s s' s₁ s₁' : Store}
  {k k' m m' : Nat}

theorem Created.matching (h : Created p user s k s₁) (h' : Created p user s' k' s₁')
    (hs : s.Matches ρ s') (hnew : ρ.casefile (Identifier.casefile k) = Identifier.casefile k') :
    s₁.Matches ρ s₁' := by
  obtain ⟨heffect, hpayload, huser⟩ := h
  obtain ⟨heffect', hpayload', huser'⟩ := h'
  refine hs.effect (.createCasefile hnew ?_ ?_) heffect heffect'
  · rw [hpayload, hpayload']
  · rw [huser, huser']

/-- The parts leave matching stores behind, by whichever requests. -/
theorem Composed.matching (h : Composed p user s k m s₁) (h' : Composed p user s' k' m' s₁')
    (hs : s.Matches ρ s') (hcasefile : ρ.casefile (Identifier.casefile k) = Identifier.casefile k')
    (hsession : ρ.session (Identifier.session m) = Identifier.session m') : s₁.Matches ρ s₁' := by
  obtain ⟨hcreate, hstart, hpayload, huser, hscope, hlink, hlinked⟩ := h
  obtain ⟨hcreate', hstart', hpayload', huser', hscope', hlink', hlinked'⟩ := h'
  have hfirst := hcreate.matching hcreate' hs hcasefile
  have hsecond := hfirst.effect (.createSession hsession (by rw [hpayload, hpayload'])
    (by rw [huser, huser']) (by rw [hscope, hscope', Option.map_some, hcasefile])) hstart hstart'
  exact hsecond.effect (.addSession (by rw [hlinked, hlinked', hcasefile])
    (by rw [hlinked, hlinked', hsession])) hlink hlink'

/-- A casefile more is all that the first part makes. -/
theorem Created.store_eq (h : Created p user s k s₁) :
    ∃ c, s₁ = s.putCasefile (Identifier.casefile k) c ∧ c.sessionIds = [] := by
  obtain ⟨heffect, -, -⟩ := h
  cases heffect
  exact ⟨_, rfl, rfl⟩

/-- A casefile that lists the session and that session are all that the parts make. -/
theorem Composed.records (h : Composed p user s k m s₁) :
    (∃ c, s₁.casefile? (Identifier.casefile k) = some c ∧ c.sessionIds = [Identifier.session m]) ∧
    (∀ id, id ≠ Identifier.casefile k → s₁.casefile? id = s.casefile? id) ∧
    ∀ id, id ≠ Identifier.session m → s₁.session? id = s.session? id := by
  cases h with
  | @mk n now now' start link a a' _ s₂ s₃ hcreate hstart _ _ _ hlink hlinked =>
    obtain ⟨c, rfl, hempty⟩ := hcreate.store_eq
    cases hstart
    cases hlink with
    | @sessionAdded r c' t hc ht =>
      rw [hlinked] at hc ht ⊢
      obtain rfl : c = c' := by simpa using hc
      refine ⟨⟨Store.linked c (Identifier.session m) now', by simp, ?_⟩,
        fun id hid => by simp [hid], fun id hid => by simp [hid]⟩
      rw [Store.sessionIds_linked, hempty]
      simp

end Workflow

namespace Store

variable {α β : Type}

/-! ## Reachable stores -/

/-- An environment that calls of the services lead to, from an empty store. -/
def Reachable (e : Environment Store) : Prop := ∃ n, Evolves {} n e.state e.unused

theorem Reachable.fresh_and_sound {e : Environment Store} (h : Reachable e) :
    e.state.Fresh e.unused ∧ e.state.Sound := by
  obtain ⟨n, hevolves⟩ := h
  obtain ⟨hfresh, hsound, -⟩ := hevolves.sound (fresh_empty n) sound_empty
  exact ⟨hfresh, hsound⟩

/-! ## Calls that repeat each other -/

/-- From the same store, under any deadlines, both calls fail with one error, or both succeed and
leave stores behind that match under a renaming of what is new. -/
def Repeats (call call' : ServiceCall Store α) : Prop :=
  ∀ e e', Reachable e → Reachable e' → e'.state = e.state →
    (∃ err e₁ e₁', ∀ d, call.run d e = (some (.error err), e₁) ∧
      call'.run d e' = (some (.error err), e₁')) ∨
    ∃ a a' e₁ e₁', (∀ d, call.run d e = (some (.ok a), e₁) ∧
      call'.run d e' = (some (.ok a'), e₁')) ∧
      ∃ ρ : Renaming, ρ.Fixes e.state ∧ e₁.state.Matches ρ e₁'.state

theorem Repeats.map {call call' : ServiceCall Store α} (h : Repeats call call') (f : α → β) :
    Repeats (f <$> call) (f <$> call') := by
  intro e e' he he' hstate
  rcases h e e' he he' hstate with ⟨err, e₁, e₁', hrun⟩ | ⟨a, a', e₁, e₁', hrun, hmatch⟩
  · exact .inl ⟨err, e₁, e₁', fun d => ⟨ServiceCall.run_map_of_run (hrun d).1 f,
      ServiceCall.run_map_of_run (hrun d).2 f⟩⟩
  · exact .inr ⟨f a, f a', e₁, e₁', fun d => ⟨ServiceCall.run_map_of_run (hrun d).1 f,
      ServiceCall.run_map_of_run (hrun d).2 f⟩, hmatch⟩

theorem serve_repeats (q : ServiceRequest) (id : String) :
    Repeats (services.serve q) (services.serve (q.withId id)) := by
  intro e e' he he' hstate
  obtain ⟨hfresh, hsound⟩ := he.fresh_and_sound
  obtain ⟨hfresh', -⟩ := he'.fresh_and_sound
  rw [hstate] at hfresh'
  rcases perform_again e.state q id e.unused e'.unused e.now e'.now with
    ⟨err, herr, herr'⟩ | ⟨a, a', s₁, s₁', heffect, heffect'⟩
  · rw [← hstate] at herr'
    exact .inl ⟨err, _, _, fun d => ⟨serve_of_failure herr d, serve_of_failure herr' d⟩⟩
  · have hfix := Renaming.exchange_fixes hfresh hfresh' hfresh hfresh'
    have hcorresponds := corresponds_withId heffect hfix (Renaming.exchange_casefile ..)
      (Renaming.exchange_session ..) id
    have hmatch := (Matches.refl hsound hfix).effect hcorresponds heffect heffect'
    rw [← hstate] at heffect'
    exact .inr ⟨a, a', _, _, fun d => ⟨serve_of_effect heffect d, serve_of_effect heffect' d⟩, _,
      hfix, hmatch⟩

end Store

/-- The workflow repeats what it does in the same store. -/
theorem Workflow.workflow_repeats (r : Request CreateCasefileWithSession) (id : String) :
    Store.Repeats (createCasefileWithSession Store.services r)
      (createCasefileWithSession Store.services { r with requestId := id }) := by
  intro e e' he he' hstate
  obtain ⟨hfresh, hsound⟩ := he.fresh_and_sound
  obtain ⟨hfresh', -⟩ := he'.fresh_and_sound
  rw [hstate] at hfresh'
  by_cases htitle : Text.trim r.payload.title = ""
  · have hblank := String.isEmpty_iff.2 htitle
    exact .inl ⟨_, _, _, fun d => ⟨createCasefileWithSession_of_blank hblank d e,
      createCasefileWithSession_of_blank (r := { r with requestId := id }) hblank d e'⟩⟩
  · have hfix := Renaming.exchange_fixes (hfresh.mono (Nat.le_add_right _ 1))
      (hfresh'.mono (Nat.le_add_right _ 1)) (hfresh.mono (Nat.le_add_right _ 3))
      (hfresh'.mono (Nat.le_add_right _ 3))
    have hmatch := Store.Matches.refl hsound hfix
    cases hauto : r.payload.autoStartSession with
    | false =>
      obtain ⟨s₁, hcreated, hrun⟩ := run_of_declined htitle hauto e
      obtain ⟨s₁', hcreated', hrun'⟩ :=
        run_of_declined (r := { r with requestId := id }) htitle hauto e'
      rw [hstate] at hcreated'
      refine .inr ⟨_, _, _, _, fun d => ⟨hrun d, hrun' d⟩, _, hfix, ?_⟩
      exact hcreated.matching hcreated' hmatch (Renaming.exchange_casefile ..)
    | true =>
      obtain ⟨s₃, hcomposed, hrun⟩ := run_of_started htitle hauto e
      obtain ⟨s₃', hcomposed', hrun'⟩ :=
        run_of_started (r := { r with requestId := id }) htitle hauto e'
      rw [hstate] at hcomposed'
      refine .inr ⟨_, _, _, _, fun d => ⟨hrun d, hrun' d⟩, _, hfix, ?_⟩
      exact hcomposed.matching hcomposed' hmatch (Renaming.exchange_casefile ..)
        (Renaming.exchange_session ..)

end CasefileHub
