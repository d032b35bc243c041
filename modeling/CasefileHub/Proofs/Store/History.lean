import CasefileHub.Proofs.Store.Integrity
/-!
# Histories of the store

A history lists the calls of the services since the store was empty, in order, with what each was
answered. Time may pass between the calls, and numbers may be used up for other things. Facts that
relate a history to the store it leads to follow by induction on the history: calls that fail change
nothing, and the others have an effect on a sound store in which the next number is fresh.

    P [] {} → … → History log e → P log e.state                            (History.induction)
    History log e → e.state.Fresh e.unused ∧ e.state.Sound            (History.fresh_and_sound)
-/

namespace CasefileHub

/-- A call of a service, with what it was answered. -/
structure Served where
  request : ServiceRequest
  answer : Except ServiceError ServiceAnswer

namespace Store

/-- The calls that lead from an empty store to an environment. -/
inductive History : List Served → Environment Store → Prop
  | start {e : Environment Store} (hempty : e.state = {}) : History [] e
  | call {log : List Served} {e e' : Environment Store} {q : ServiceRequest} {d : Option Nat}
      {answer : Except ServiceError ServiceAnswer} (h : History log e)
      (hrun : (services.serve q).run d e = (some answer, e')) : History (log ++ [⟨q, answer⟩]) e'
  | pause {log : List Served} {e e' : Environment Store} (h : History log e)
      (hstate : e'.state = e.state) (hunused : e.unused ≤ e'.unused) : History log e'

/-- A call fails and changes nothing, or it has its effect. Either way it uses up its numbers. -/
theorem serve_cases {q : ServiceRequest} {d : Option Nat} {e e' : Environment Store}
    {answer : Except ServiceError ServiceAnswer}
    (hrun : (services.serve q).run d e = (some answer, e')) :
    e'.unused = e.unused + q.numbers ∧
      ((∃ err, answer = .error err ∧ e'.state = e.state) ∨
        ∃ a, answer = .ok a ∧ Effect e.unused e.now e.state q a e'.state) := by
  rw [serve_apply] at hrun
  cases hp : e.state.perform e.unused e.now q with
  | error err =>
    rw [hp] at hrun
    cases hrun
    exact ⟨rfl, .inl ⟨err, rfl, rfl⟩⟩
  | ok p =>
    obtain ⟨a, s'⟩ := p
    rw [hp] at hrun
    cases hrun
    exact ⟨rfl, .inr ⟨a, rfl, effect_of_perform hp⟩⟩

namespace History

variable {log : List Served} {e : Environment Store}

theorem evolves (h : History log e) : ∃ n, Evolves {} n e.state e.unused := by
  induction h with
  | @start e hempty => exact ⟨e.unused, hempty ▸ .refl⟩
  | call h hrun ih =>
    obtain ⟨n, hevolves⟩ := ih
    obtain ⟨hunused, ⟨err, -, hstate⟩ | ⟨a, -, heffect⟩⟩ := serve_cases hrun
    · rw [hunused, hstate]
      exact ⟨n, hevolves.take (Nat.le_add_right _ _)⟩
    · rw [hunused]
      exact ⟨n, hevolves.perform heffect⟩
  | pause h hstate hunused ih =>
    obtain ⟨n, hevolves⟩ := ih
    exact ⟨n, hstate ▸ hevolves.take hunused⟩

theorem fresh_and_sound (h : History log e) : e.state.Fresh e.unused ∧ e.state.Sound := by
  obtain ⟨n, hevolves⟩ := h.evolves
  obtain ⟨hfresh, hsound, -⟩ := hevolves.sound (fresh_empty n) sound_empty
  exact ⟨hfresh, hsound⟩

/-- What holds at the start, and is kept by calls that fail and by effects, holds of every history and
the store it leads to. -/
theorem induction {P : List Served → Store → Prop} (start : P [] {})
    (failure : ∀ log s q err, P log s → P (log ++ [⟨q, .error err⟩]) s)
    (effect : ∀ log n now s q a s', s.Fresh n → s.Sound → Effect n now s q a s' → P log s →
      P (log ++ [⟨q, .ok a⟩]) s')
    (h : History log e) : P log e.state := by
  induction h with
  | start hempty => exact hempty ▸ start
  | call h hrun ih =>
    obtain ⟨hfresh, hsound⟩ := h.fresh_and_sound
    obtain ⟨-, ⟨err, rfl, hstate⟩ | ⟨a, rfl, heffect⟩⟩ := serve_cases hrun
    · exact hstate ▸ failure _ _ _ err ih
    · exact effect _ _ _ _ _ a _ hfresh hsound heffect ih
  | pause h hstate hunused ih => exact hstate ▸ ih

end History

/-! ## Histories of given calls -/

/-- The environment after a call. -/
def afterCall (e : Environment Store) (q : ServiceRequest) : Environment Store :=
  (settle { e with unused := e.unused + q.numbers } (e.state.perform e.unused e.now q)).2

/-- The calls of some requests, one after the other. -/
def callAll : List ServiceRequest → Environment Store → List Served × Environment Store
  | [], e => ([], e)
  | q :: rest, e =>
    let answer := (e.state.perform e.unused e.now q).map Prod.fst
    let (log, e') := callAll rest (afterCall e q)
    (⟨q, answer⟩ :: log, e')

theorem History.callAll {log : List Served} {e : Environment Store} (h : History log e)
    (qs : List ServiceRequest) : History (log ++ (callAll qs e).1) (callAll qs e).2 := by
  induction qs generalizing log e with
  | nil => simpa [Store.callAll] using h
  | cons q rest ih =>
    have hnext : History (log ++ [⟨q, (e.state.perform e.unused e.now q).map Prod.fst⟩])
        (afterCall e q) := by
      refine h.call (d := none) ?_
      rw [serve_apply, afterCall]
      rcases e.state.perform e.unused e.now q with _ | ⟨_, _⟩ <;> rfl
    have hrest := ih hnext
    rw [List.append_assoc] at hrest
    exact hrest

end Store

end CasefileHub
