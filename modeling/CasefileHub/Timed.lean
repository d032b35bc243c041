import CasefileHub.Timestamp
/-!
# Timed computations

A computation works on an environment, waits, and has to be done by a deadline, if there is one. A
wait that ends at the deadline is in time; one that would end after it never ends, and the
computation stops there, leaving behind what it did before. Of two deadlines the earlier counts, and
of two at the same time the inner one.
-/

namespace CasefileHub

/-- What computations work on: a state, a clock that counts the nanoseconds waited, the time of day
and the next number that has not been used in an identifier. -/
structure Environment (σ : Type) where
  state : σ
  clock : Nat := 0
  now : Timestamp := ⟨0⟩
  unused : Nat := 0

/-- A computation of an `α` under a deadline. It has no result if the deadline passes. -/
def Timed (σ α : Type) : Type := Option Nat → Environment σ → Option α × Environment σ

namespace Timed

variable {σ τ α β : Type}

/-- Runs a computation without a deadline. -/
def run (m : Timed σ α) (e : Environment σ) : Option α × Environment σ := m none e

instance : Monad (Timed σ) where
  pure a := fun _ e => (some a, e)
  bind m f := fun deadline e =>
    match m deadline e with
    | (some a, e') => f a deadline e'
    | (none, e') => (none, e')

/-- Stops without a result, whatever the deadline. -/
def stop : Timed σ α := fun _ e => (none, e)

/-- The nanoseconds of some seconds. -/
def nanos (seconds : Nat) : Nat := 1000000000 * seconds

/-- Waits for some nanoseconds. -/
def sleep (time : Nat) : Timed σ Unit := fun deadline e =>
  match deadline with
  | some d =>
    if e.clock + time ≤ d then (some (), { e with clock := e.clock + time })
    else (none, { e with clock := d })
  | none => (some (), { e with clock := e.clock + time })

/-- Whether a deadline comes no later than an outer one. -/
def comesFirst (own : Nat) : Option Nat → Bool
  | some d => own ≤ d
  | none => true

/-- A computation that has only so many seconds. Without a result at their end it is given up. -/
def within (seconds : Nat) (m : Timed σ α) : Timed σ (Option α) := fun deadline e =>
  let own := e.clock + nanos seconds
  if comesFirst own deadline then
    match m (some own) e with
    | (some a, e') => (some (some a), e')
    | (none, e') => (some none, { e' with clock := own })
  else
    match m deadline e with
    | (some a, e') => (some (some a), e')
    | (none, e') => (none, e')

/-- A computation that may have a limited time. -/
def withinOption (seconds : Option Nat) (m : Timed σ α) : Timed σ (Option α) :=
  match seconds with
  | some s => within s m
  | none => some <$> m

/-- A step that takes no time. -/
def step (f : Environment σ → α × Environment σ) : Timed σ α := fun _ e =>
  let (a, e') := f e
  (some a, e')

/-- The nanoseconds waited so far. -/
def clock : Timed σ Nat := step fun e => (e.clock, e)

/-- The time of day. -/
def now : Timed σ Timestamp := step fun e => (e.now, e)

/-- A number that has not been used. -/
def fresh : Timed σ Nat := step fun e => (e.unused, { e with unused := e.unused + 1 })

def get : Timed σ σ := step fun e => (e.state, e)

def modify (f : σ → σ) : Timed σ Unit := step fun e => ((), { e with state := f e.state })

/-- A computation on a part of the state. -/
def focus (view : σ → τ) (update : τ → σ → σ) (m : Timed τ α) : Timed σ α := fun deadline e =>
  let (a, e') := m deadline { e with state := view e.state }
  (a, { e' with state := update e'.state e.state })

/-! ## Equations -/

@[simp] theorem pure_apply (a : α) (d : Option Nat) (e : Environment σ) :
    (pure a : Timed σ α) d e = (some a, e) := rfl

theorem bind_apply (m : Timed σ α) (f : α → Timed σ β) (d : Option Nat) (e : Environment σ) :
    (m >>= f) d e =
      match m d e with
      | (some a, e') => f a d e'
      | (none, e') => (none, e') := rfl

theorem id_map' (m : Timed σ α) : id <$> m = m := by
  funext d e
  show (match m d e with | (some a, e') => _ | (none, e') => _) = _
  rcases m d e with ⟨_ | a, e'⟩ <;> rfl

theorem bind_assoc' {γ : Type} (m : Timed σ α) (f : α → Timed σ β) (g : β → Timed σ γ) :
    m >>= f >>= g = m >>= fun a => f a >>= g := by
  funext d e
  simp only [bind_apply]
  rcases m d e with ⟨_ | a, e'⟩ <;> rfl

instance : LawfulMonad (Timed σ) := LawfulMonad.mk' _ id_map' (fun _ _ => rfl) bind_assoc'

end Timed

end CasefileHub
