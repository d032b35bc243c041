import CasefileHub.Invocation
/-!
# Scripts

A script says what an implementation does at each of its calls, by the number of the call: it waits,
and fails or answers. Waiting and failing may be limited to the first calls.
-/

namespace CasefileHub

structure Script where
  /-- The seconds to wait, in as many calls. -/
  delay : Nat := 0
  delayedCalls : Option Nat := none
  /-- The failure, in as many calls. -/
  failure : Option HubError := none
  failedCalls : Option Nat := none
deriving DecidableEq, Repr

namespace Script

/-- A call is among the first so many, if only those count. -/
def isAmong (call : Nat) : Option Nat → Bool
  | some n => call < n
  | none => true

def delayAt (s : Script) (call : Nat) : Nat := if isAmong call s.delayedCalls then s.delay else 0

def failureAt (s : Script) (call : Nat) : Option HubError :=
  if isAmong call s.failedCalls then s.failure else none

/-- Plays the part of a call whose answer would be the given one. -/
def play {σ : Type} (s : Script) (call : Nat) (answer : Json) : Timed σ (Except HubError Json) := do
  Timed.sleep (Timed.nanos (s.delayAt call))
  match s.failureAt call with
  | some e => return .error e
  | none => return .ok answer

end Script

end CasefileHub
