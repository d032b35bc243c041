import CasefileHub.Proofs.Dispatch.Follows
import CasefileHub.Proofs.Dispatch.Silence
import CasefileHub.Proofs.Store.Integrity
import CasefileHub.Rehearsal
/-!
# Runs of dispatches over a store

Whatever calls of the services do, they make the store evolve by operations that succeed. This holds
of the services of the store, and also of services that wait and fail on top of it: a call that is
stopped or fails early has performed no operation. So a hub over a store makes it evolve with every
dispatch, also where a deadline cuts the workflow off between two of its steps. What holds of a store
that evolves from an empty one holds after every run:

    Store.services, Rehearsal.services faults follow Moves                 (OfStore.follow)
    h.Run e e' → Moves view e e'                                           (moves_of_run)
    h.Run e₀ e → h.Run e e' → e.Sound and e grows to e'                     (run_keeps_integrity)
-/

namespace CasefileHub

variable {σ α P : Type}

/-! ## Stores that evolve -/

/-- The store that is seen in a state evolves. -/
def Store.Moves (view : σ → Store) (e e' : Environment σ) : Prop :=
  Evolves (view e.state) e.unused (view e'.state) e'.unused

namespace Store

variable {view : σ → Store} {e e' : Environment σ}

theorem moves_of_eq (hview : view e'.state = view e.state) (hunused : e.unused ≤ e'.unused) :
    Moves view e e' := by
  unfold Moves
  rw [hview]
  exact Evolves.refl.take hunused

theorem moves_course : Environment.Course (Moves view) where
  trans h h' := Evolves.trans h h'
  idle hstate hunused := moves_of_eq (congrArg view hstate) hunused

/-! ## The services of the store -/

theorem serve_follows (q : ServiceRequest) : (services.serve q).Follows (Moves id) := by
  intro d e
  rw [serve_apply]
  cases hp : e.state.perform e.unused e.now q with
  | error err => exact moves_of_eq rfl (Nat.le_add_right _ _)
  | ok p => exact Evolves.refl.perform (effect_of_perform hp)

theorem look_follows (f : Store → Except ServiceError α) : (look f).Follows (Moves id) := by
  intro d e
  unfold look
  rw [call_apply]
  cases f e.state with
  | error err => exact moves_course.refl e
  | ok a => exact moves_course.refl e

theorem services_follow : services.Follow (Moves id) where
  session? _ := look_follows _
  casefile? _ := look_follows _
  createCasefile r := ServiceCall.follows_map_iff.1 (serve_follows (.createCasefile r))
  getCasefile r := ServiceCall.follows_map_iff.1 (serve_follows (.getCasefile r))
  addSession r := ServiceCall.follows_map_iff.1 (serve_follows (.addSession r))
  createSession r := ServiceCall.follows_map_iff.1 (serve_follows (.createSession r))
  processChat r := ServiceCall.follows_map_iff.1 (serve_follows (.processChat r))

end Store

/-! ## Watched services -/

namespace Rehearsal

theorem focus_follows {call : ServiceCall Store α} (h : call.Follows (Store.Moves id)) :
    (call.focus store fun inner s => { s with store := inner }).Follows (Store.Moves store) :=
  fun d e => h d { e with state := e.state.store }

/-- A call that waits, fails or is stopped before it reaches the store does nothing there. -/
theorem watched_follows (faults : Table Fault) (name : String) (arg : Json)
    {call : ServiceCall Store α} (h : call.Follows (Store.Moves id)) :
    (watched faults name arg call).Follows (Store.Moves store) := by
  have hcourse : Environment.Course (Store.Moves store) := Store.moves_course
  have hlog : (log name arg).Follows (Store.Moves store) :=
    fun _ _ => Store.moves_of_eq rfl (Nat.le_refl _)
  unfold watched
  simp only
  refine .bind hcourse (ServiceCall.follows_lift hcourse hlog) fun _ => ?_
  refine .bind hcourse (ServiceCall.follows_lift hcourse (Timed.follows_sleep hcourse _)) fun _ => ?_
  split
  · exact ServiceCall.follows_throw hcourse _
  · exact focus_follows h

theorem services_follow (faults : Table Fault) : (services faults).Follow (Store.Moves store) where
  session? id := watched_follows faults _ _ (Store.services_follow.session? id)
  casefile? id := watched_follows faults _ _ (Store.services_follow.casefile? id)
  createCasefile r := watched_follows faults _ _ (Store.services_follow.createCasefile r)
  getCasefile r := watched_follows faults _ _ (Store.services_follow.getCasefile r)
  addSession r := watched_follows faults _ _ (Store.services_follow.addSession r)
  createSession r := watched_follows faults _ _ (Store.services_follow.createSession r)
  processChat r := watched_follows faults _ _ (Store.services_follow.processChat r)

end Rehearsal

/-- Services over a store that is seen in the state: the services of the store themselves, or
services that are made to wait and to fail. -/
inductive Services.OfStore : {σ : Type} → (σ → Store) → Services σ → Prop
  | plain : OfStore id Store.services
  | watched (faults : Table Fault) : OfStore Rehearsal.store (Rehearsal.services faults)

theorem Services.OfStore.follow {view : σ → Store} {services : Services σ}
    (h : OfStore view services) : services.Follow (Store.Moves view) := by
  cases h with
  | plain => exact Store.services_follow
  | watched faults => exact Rehearsal.services_follow faults

/-! ## Hooks -/

/-- A hook that leaves the store alone and takes no numbers back. -/
def Hook.SparesStore (view : σ → Store) (k : Hook σ) : Prop :=
  ∀ stage response c e, view (k.run stage response c e).2.state = view e.state ∧
    e.unused ≤ (k.run stage response c e).2.unused

theorem Hook.builtin_spares (view : σ → Store) (name : String) (k : Hook σ)
    (hk : builtin.get? name = some k) : k.SparesStore view := by
  intro stage response c e
  rw [builtin_silent name k hk stage response c e]
  exact ⟨rfl, Nat.le_refl _⟩

theorem Hook.allFollow_of_spares {view : σ → Store} {hooks : Registry (Hook σ)}
    (h : ∀ name k, hooks.get? name = some k → k.SparesStore view) :
    AllFollow (Store.Moves view) hooks := by
  intro name k hk stage response c e
  obtain ⟨hview, hunused⟩ := h name k hk stage response c e
  exact Store.moves_of_eq hview hunused

/-! ## Runs -/

namespace Hub

/-- What a hub can come to by dispatches of built-in operations, or of none, under any deadlines.
Time may pass between them, and numbers may be used up for other things. -/
inductive Run (h : Hub σ) (e : Environment σ) : Environment σ → Prop
  | start : Run h e e
  | dispatch {e₁ : Environment σ} (run : Run h e e₁) (r : Request Json)
      (hr : ∀ route, h.operations.get? r.operation = some route → route ∈ Route.builtin)
      (d : Option Nat) : Run h e (h.dispatch r d e₁).2
  | pause {e₁ e₂ : Environment σ} (run : Run h e e₁) (hstate : e₂.state = e₁.state)
      (hunused : e₁.unused ≤ e₂.unused) : Run h e e₂

section
variable {h : Hub σ} {view : σ → Store} {e e' : Environment σ}

/-- The store evolves in every run, by one dispatch after the other. -/
theorem moves_of_run (hs : h.services.OfStore view)
    (hh : ∀ name k, h.hooks.get? name = some k → k.SparesStore view) (hrun : h.Run e e') :
    Store.Moves view e e' := by
  induction hrun with
  | start => exact Store.moves_course.refl e
  | dispatch run r hr d ih =>
    refine Store.moves_course.trans ih ?_
    exact dispatch_follows Store.moves_course hs.follow (Hook.allFollow_of_spares hh) hr d _
  | pause run hstate hunused ih =>
    exact Store.moves_course.trans ih (Store.moves_course.idle hstate hunused)

/-- **Runs keep the store sound.** From an empty store, every run of dispatches of the built-in
operations leads to a sound store: records stand under their own ids, casefiles list sessions that
are there, each once, sessions name casefiles that are there, and titles are trimmed and not empty.
And from then on no run removes a record or shortens a list: it only grows. It does not matter what
becomes of the dispatches, nor whether services fail or a deadline stops them in the middle. -/
theorem run_keeps_integrity (hs : h.services.OfStore view)
    (hh : ∀ name k, h.hooks.get? name = some k → k.SparesStore view) {e₀ : Environment σ}
    (hempty : view e₀.state = {}) (hreach : h.Run e₀ e) (hrun : h.Run e e') :
    (view e.state).Sound ∧ (view e.state).GrowsTo (view e'.state) := by
  have hfirst : Store.Evolves (view e₀.state) e₀.unused (view e.state) e.unused :=
    moves_of_run hs hh hreach
  have hsecond : Store.Evolves (view e.state) e.unused (view e'.state) e'.unused :=
    moves_of_run hs hh hrun
  rw [hempty] at hfirst
  obtain ⟨hfresh, hsound, -⟩ := hfirst.sound (Store.fresh_empty _) Store.sound_empty
  obtain ⟨-, -, hgrows⟩ := hsecond.sound hfresh hsound
  exact ⟨hsound, hgrows⟩

end

/-- A hub whose operations have five seconds, over services that take ten to create a session. -/
def impatient : Hub Rehearsal :=
  standard .builtin (Rehearsal.services (.insert .empty "session.create" { delay := 10 }))
    { operationTimeout := some 5 }

/-- A request for a casefile with a session in it. -/
def outage : Request Json where
  requestId := "r"
  operation := OperationName.createCasefileWithSession
  payload := .obj [("title", .str " Outage ")]

/-- What is left when the deadline stops the workflow after its first step. -/
def cutOff : Environment Rehearsal := (impatient.dispatch outage none { state := {} }).2

/-- The casefile of the first step stays, without a session, and the store is sound. -/
theorem cut_off_keeps_integrity :
    (cutOff.state.store.casefile? (Identifier.casefile 1)).map
        (fun c => (c.title, c.sessionIds)) = some ("Outage", []) ∧
      cutOff.state.store.Sound ∧
      cutOff.state.store.GrowsTo (impatient.dispatch outage (some 20) cutOff).2.state.store := by
  have hbuiltin : ∀ route, impatient.operations.get? outage.operation = some route →
      route ∈ Route.builtin := fun route => Route.mem_builtin_of_get?
  have hreach : impatient.Run { state := {} } cutOff := Run.start.dispatch outage hbuiltin none
  have hrun : impatient.Run cutOff (impatient.dispatch outage (some 20) cutOff).2 :=
    Run.start.dispatch outage hbuiltin (some 20)
  have hservices : impatient.services.OfStore Rehearsal.store := .watched _
  refine ⟨by decide +kernel, ?_⟩
  exact run_keeps_integrity hservices (Hook.builtin_spares _) rfl hreach hrun

end Hub

end CasefileHub
