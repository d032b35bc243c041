import CasefileHub.Proofs.Service
import CasefileHub.Proofs.Timed.Prompt
/-!
# Time on calls

Services that are answered at once, made to take time: every call first waits, as long as it may be,
and is then answered. A timeline keeps which calls have been started and how long each waits. So
whatever a computation does that waits for one call after the other, a deadline can only cut off its
calls: it is as without one if they end in time, and else it is given up at the deadline, when just
those calls are started before which the deadline has not passed:

    a call is started in some time ↔ those before it take no longer             (getElem?_startedIn)
    m Lasts calls → (f a) Lasts calls' → (m >>= f) Lasts (calls ++ calls')             (Lasts.bind)
    m waits for calls only, one after the other → m is Paced                    (Sequential.paced)
-/

namespace CasefileHub

variable {σ α β : Type}

/-! ## Calls that take time -/

/-- What a computation may wait for: that a record is looked up, that a service answers, or that
some time is over. -/
inductive Awaited where
  | session (id : String)
  | casefile (id : String)
  | answer (q : ServiceRequest)
  | timer
deriving DecidableEq, Repr

/-- A call that is started, and the nanoseconds that it waits. -/
structure Started where
  call : Awaited
  delay : Nat
deriving DecidableEq, Repr

namespace Started

/-- The time that calls take, one after the other. -/
def total : List Started → Nat
  | [] => 0
  | c :: rest => c.delay + total rest

@[simp] theorem total_nil : total [] = 0 := rfl

@[simp] theorem total_cons (c : Started) (calls : List Started) :
    total (c :: calls) = c.delay + total calls := rfl

@[simp] theorem total_append (calls calls' : List Started) :
    total (calls ++ calls') = total calls + total calls' := by
  induction calls with
  | nil => simp
  | cons c rest ih => rw [List.cons_append, total_cons, total_cons, ih, Nat.add_assoc]

/-- Of calls one after the other, those that are started while some time is not over. -/
def startedIn (time : Nat) : List Started → List Started
  | [] => []
  | c :: rest => c :: if c.delay ≤ time then startedIn (time - c.delay) rest else []

/-- A call is started exactly if those before it take no longer. -/
theorem getElem?_startedIn (time : Nat) (calls : List Started) (i : Nat) :
    (startedIn time calls)[i]? = if total (calls.take i) ≤ time then calls[i]? else none := by
  induction calls generalizing time i with
  | nil => simp [startedIn]
  | cons c rest ih =>
    cases i with
    | zero => simp [startedIn]
    | succ i =>
      have htotal : total ((c :: rest).take (i + 1)) = c.delay + total (rest.take i) := rfl
      by_cases hdelay : c.delay ≤ time
      · rw [startedIn, if_pos hdelay, List.getElem?_cons_succ, List.getElem?_cons_succ, ih]
        by_cases hrest : total (rest.take i) ≤ time - c.delay
        · rw [if_pos hrest, if_pos (by omega)]
        · rw [if_neg hrest, if_neg (by omega)]
      · rw [startedIn, if_neg hdelay, if_neg (by omega)]
        rfl

/-- If the first calls take longer, the others make no difference. -/
theorem startedIn_append_of_lt {time : Nat} {calls : List Started} (h : time < total calls)
    (calls' : List Started) : startedIn time (calls ++ calls') = startedIn time calls := by
  induction calls generalizing time with
  | nil => exact absurd h (Nat.not_lt_zero _)
  | cons c rest ih =>
    rw [total_cons] at h
    simp only [List.cons_append, startedIn]
    split
    · rw [ih (by omega)]
    · rfl

/-- If the first calls take no longer, the others have the time that is left. -/
theorem startedIn_append_of_le {time : Nat} {calls : List Started} (h : total calls ≤ time)
    (calls' : List Started) :
    startedIn time (calls ++ calls') = calls ++ startedIn (time - total calls) calls' := by
  induction calls generalizing time with
  | nil => rfl
  | cons c rest ih =>
    rw [total_cons] at h
    simp only [List.cons_append, startedIn, total_cons]
    rw [if_pos (by omega), ih (by omega), Nat.sub_sub]

end Started

/-- A state, and the calls that have been started on it, in order. -/
structure Timeline (σ : Type) where
  state : σ
  started : List Started := []
deriving DecidableEq, Repr

namespace Timeline

def update (s : σ) (t : Timeline σ) : Timeline σ := { t with state := s }

/-- Starts a call, and waits for it. -/
def wait (c : Started) : Timed (Timeline σ) Unit := do
  Timed.modify fun t => { t with started := t.started ++ [c] }
  Timed.sleep c.delay

/-- A call that waits before it is answered; how long may depend on all that was before. -/
def call (delay : Timeline σ → Awaited → Nat) (q : Awaited) (c : ServiceCall σ α) :
    ServiceCall (Timeline σ) α :=
  ExceptT.mk do
    let t ← Timed.get
    wait ⟨q, delay t q⟩
    (c.focus state update).run

end Timeline

/-- The services, with every call made to wait. -/
def Services.delayed (s : Services σ) (delay : Timeline σ → Awaited → Nat) :
    Services (Timeline σ) where
  session? id := Timeline.call delay (.session id) (s.session? id)
  casefile? id := Timeline.call delay (.casefile id) (s.casefile? id)
  createCasefile q := Timeline.call delay (.answer (.createCasefile q)) (s.createCasefile q)
  getCasefile q := Timeline.call delay (.answer (.getCasefile q)) (s.getCasefile q)
  addSession q := Timeline.call delay (.answer (.addSession q)) (s.addSession q)
  createSession q := Timeline.call delay (.answer (.createSession q)) (s.createSession q)
  processChat q := Timeline.call delay (.answer (.processChat q)) (s.processChat q)

/-! ## Computations at no time -/

/-- The computation answers the same under every deadline, and takes no time. -/
def Timed.Instant (m : Timed σ α) : Prop :=
  ∀ e, ∃ a e', e'.clock = e.clock ∧ ∀ d, m d e = (some a, e')

/-- Every call is answered at once, in whatever way. -/
structure Services.Instant (s : Services σ) : Prop where
  session? : ∀ id, (s.session? id).run.Instant
  casefile? : ∀ id, (s.casefile? id).run.Instant
  createCasefile : ∀ q, (s.createCasefile q).run.Instant
  getCasefile : ∀ q, (s.getCasefile q).run.Instant
  addSession : ∀ q, (s.addSession q).run.Instant
  createSession : ∀ q, (s.createSession q).run.Instant
  processChat : ∀ q, (s.processChat q).run.Instant

/-! ## Computations in time -/

namespace Timed

/-- Without a deadline the computation starts some calls and ends with a result. By a deadline it
does the same if the calls end in time, and is given up at the deadline if they do not, when those
calls are started before which there was time. -/
structure Lasts (m : Timed (Timeline σ) α) (e : Environment (Timeline σ)) (calls : List Started)
    (a : α) (e' : Environment (Timeline σ)) : Prop where
  answers : m none e = (some a, e')
  clock : e'.clock = e.clock + Started.total calls
  started : e'.state.started = e.state.started ++ calls
  in_time : ∀ d, e.clock + Started.total calls ≤ d → m (some d) e = (some a, e')
  late : ∀ d, e.clock ≤ d → d < e.clock + Started.total calls →
    ∃ e₁, m (some d) e = (none, e₁) ∧ e₁.clock = d ∧
      e₁.state.started = e.state.started ++ Started.startedIn (d - e.clock) calls

theorem Lasts.bind {m : Timed (Timeline σ) α} {f : α → Timed (Timeline σ) β}
    {e e₁ e₂ : Environment (Timeline σ)} {calls calls' : List Started} {a : α} {b : β}
    (hm : m.Lasts e calls a e₁) (hf : (f a).Lasts e₁ calls' b e₂) :
    (m >>= f).Lasts e (calls ++ calls') b e₂ where
  answers := by rw [bind_apply, hm.answers]; exact hf.answers
  clock := by rw [hf.clock, hm.clock, Started.total_append, Nat.add_assoc]
  started := by rw [hf.started, hm.started, List.append_assoc]
  in_time d hd := by
    rw [Started.total_append] at hd
    rw [bind_apply, hm.in_time d (by omega)]
    exact hf.in_time d (by rw [hm.clock]; omega)
  late d hle hlt := by
    rw [Started.total_append] at hlt
    rw [bind_apply]
    by_cases hfirst : d < e.clock + Started.total calls
    · -- the deadline passes in the first computation
      obtain ⟨e', hrun, hclock, hstarted⟩ := hm.late d hle hfirst
      rw [hrun, Started.startedIn_append_of_lt (by omega)]
      exact ⟨e', rfl, hclock, hstarted⟩
    · have hclock₁ := hm.clock
      obtain ⟨e', hrun, hclock, hstarted⟩ := hf.late d (by omega) (by omega)
      rw [hm.in_time d (by omega), Started.startedIn_append_of_le (by omega)]
      refine ⟨e', hrun, hclock, ?_⟩
      rw [hstarted, hm.started, List.append_assoc, hclock₁, Nat.sub_add_eq]

section
variable {m : Timed (Timeline σ) α} {e e' : Environment (Timeline σ)} {calls : List Started} {a : α}
  {seconds : Nat} (h : m.Lasts e calls a e')
include h

theorem Lasts.unlimited : withinOption none m none e = (some (some a), e') := by
  rw [withinOption, map_apply, h.answers]

/-- The time that a computation has is enough for its calls. -/
theorem Lasts.within_time (hle : Started.total calls ≤ nanos seconds) :
    withinOption (some seconds) m none e = (some (some a), e') := by
  have hrun := h.in_time (e.clock + nanos seconds) (Nat.add_le_add_left hle _)
  simp only [withinOption, within, comesFirst, if_true, hrun]

/-- The time is not enough, and the computation is given up at its end. -/
theorem Lasts.given_up (hlt : nanos seconds < Started.total calls) :
    ∃ e₁, m (some (e.clock + nanos seconds)) e = (none, e₁) ∧ e₁.clock = e.clock + nanos seconds ∧
      e₁.state.started = e.state.started ++ Started.startedIn (nanos seconds) calls ∧
      withinOption (some seconds) m none e = (some none, e₁) := by
  obtain ⟨e₁, hrun, hclock, hstarted⟩ :=
    h.late (e.clock + nanos seconds) (Nat.le_add_right _ _) (Nat.add_lt_add_left hlt _)
  rw [Nat.add_sub_cancel_left] at hstarted
  refine ⟨e₁, hrun, hclock, hstarted, ?_⟩
  simp only [withinOption, within, comesFirst, if_true, hrun]
  rw [← hclock]

end

/-- From every environment, the computation lasts as long as the calls that it starts. -/
def Paced (m : Timed (Timeline σ) α) : Prop := ∀ e, ∃ calls a e', m.Lasts e calls a e'

theorem Paced.bind {m : Timed (Timeline σ) α} {f : α → Timed (Timeline σ) β} (hm : m.Paced)
    (hf : ∀ a, (f a).Paced) : (m >>= f).Paced := by
  intro e
  obtain ⟨calls, a, e₁, hfirst⟩ := hm e
  obtain ⟨calls', b, e₂, hsecond⟩ := hf a e₁
  exact ⟨_, b, e₂, hfirst.bind hsecond⟩

/-- What takes no time and starts no call is over before any deadline. -/
theorem paced_of_instant {m : Timed (Timeline σ) α}
    (h : ∀ e, ∃ a e', e'.clock = e.clock ∧ e'.state.started = e.state.started ∧
      ∀ d, m d e = (some a, e')) : m.Paced := by
  intro e
  obtain ⟨a, e', hclock, hstarted, hrun⟩ := h e
  refine ⟨[], a, e', hrun none, hclock, ?_, fun d _ => hrun (some d), fun d hle hlt => ?_⟩
  · rw [hstarted, List.append_nil]
  · exact absurd hlt (Nat.not_lt.2 hle)

theorem paced_wait (c : Started) : (Timeline.wait c : Timed (Timeline σ) Unit).Paced := by
  intro e
  let e₁ : Environment (Timeline σ) :=
    { e with state := { e.state with started := e.state.started ++ [c] } }
  have hwait (d : Option Nat) : Timeline.wait c d e = sleep c.delay d e₁ := rfl
  refine ⟨[c], (), { e₁ with clock := e.clock + c.delay }, ?_⟩
  constructor
  · rfl
  · simp
  · rfl
  · intro d hd
    rw [hwait]
    simp only [Started.total_cons, Started.total_nil, Nat.add_zero] at hd
    exact if_pos hd
  · intro d hle hlt
    rw [hwait]
    simp only [Started.total_cons, Started.total_nil, Nat.add_zero] at hlt
    refine ⟨{ e₁ with clock := d }, if_neg (Nat.not_le.2 hlt), rfl, ?_⟩
    have honly : Started.startedIn (d - e.clock) [c] = [c] := by
      simp [Started.startedIn]
    rw [honly]

theorem paced_call (delay : Timeline σ → Awaited → Nat) (q : Awaited) {c : ServiceCall σ α}
    (h : c.run.Instant) : (Timeline.call delay q c).run.Paced := by
  refine Paced.bind (paced_of_instant fun e => ⟨_, e, rfl, rfl, fun _ => rfl⟩) fun t => ?_
  refine Paced.bind (paced_wait _) fun _ => paced_of_instant fun e => ?_
  obtain ⟨a, e', hclock, hrun⟩ := h { e with state := e.state.state }
  refine ⟨a, { e' with state := Timeline.update e'.state e.state }, hclock, rfl, fun d => ?_⟩
  show (match c.run d { e with state := e.state.state } with
    | (a, e₁) => (a, { e₁ with state := Timeline.update e₁.state e.state })) = _
  rw [hrun]

end Timed

/-! ## One call after the other -/

/-- Computations over services that take time only in calls and in waits, one after the other.
Besides they may do what takes no time, and go on as they like with what was answered. -/
inductive Sequential : {α : Type} → (Services (Timeline σ) → Timed (Timeline σ) α) → Prop
  | step {α : Type} {f : Environment (Timeline σ) → α × Environment (Timeline σ)}
      (hclock : ∀ e, (f e).2.clock = e.clock)
      (hstarted : ∀ e, (f e).2.state.started = e.state.started) : Sequential fun _ => Timed.step f
  | wait (time : Nat) : Sequential fun _ => Timeline.wait ⟨.timer, time⟩
  | session? (id : String) : Sequential fun s => (s.session? id).run
  | casefile? (id : String) : Sequential fun s => (s.casefile? id).run
  | createCasefile (q : Request CreateCasefile) : Sequential fun s => (s.createCasefile q).run
  | getCasefile (q : Request GetCasefile) : Sequential fun s => (s.getCasefile q).run
  | addSession (q : Request AddSession) : Sequential fun s => (s.addSession q).run
  | createSession (q : Request CreateSession) : Sequential fun s => (s.createSession q).run
  | processChat (q : Request Chat) : Sequential fun s => (s.processChat q).run
  | bind {α β : Type} {m : Services (Timeline σ) → Timed (Timeline σ) α}
      {f : α → Services (Timeline σ) → Timed (Timeline σ) β} (hm : Sequential m)
      (hf : ∀ a, Sequential (f a)) : Sequential fun s => m s >>= fun a => f a s

namespace Sequential

/-- Over services that are answered at once, such a computation lasts as long as its calls. -/
theorem paced {s : Services σ} (hs : s.Instant) (delay : Timeline σ → Awaited → Nat)
    {m : Services (Timeline σ) → Timed (Timeline σ) α} (h : Sequential m) :
    (m (s.delayed delay)).Paced := by
  induction h with
  | step hclock hstarted =>
    exact Timed.paced_of_instant fun e => ⟨_, _, hclock e, hstarted e, fun _ => rfl⟩
  | wait time => exact Timed.paced_wait _
  | session? id => exact Timed.paced_call delay _ (hs.session? id)
  | casefile? id => exact Timed.paced_call delay _ (hs.casefile? id)
  | createCasefile q => exact Timed.paced_call delay _ (hs.createCasefile q)
  | getCasefile q => exact Timed.paced_call delay _ (hs.getCasefile q)
  | addSession q => exact Timed.paced_call delay _ (hs.addSession q)
  | createSession q => exact Timed.paced_call delay _ (hs.createSession q)
  | processChat q => exact Timed.paced_call delay _ (hs.processChat q)
  | bind _ _ ihm ihf => exact ihm.bind ihf

theorem pure (a : α) : Sequential fun _ : Services (Timeline σ) => (Pure.pure a : Timed _ α) :=
  step (f := fun e => (a, e)) (fun _ => rfl) fun _ => rfl

theorem fresh : Sequential fun _ : Services (Timeline σ) => Timed.fresh :=
  step (fun _ => rfl) fun _ => rfl

end Sequential

end CasefileHub
