import CasefileHub.Table
import CasefileHub.Timestamp
/-!
# Quotas

How often each tool has been used in the current minute and the current hour. Both periods of a tool
begin with its first use, and one that is over begins anew when its limit is looked at next. A use is
admitted if both periods have room, and then counts in both; a tool without any limit is not counted.

    take q now tool m h = (ok, _) ↔ neither count of a period that is not over has reached its limit
-/

namespace CasefileHub

/-- The period of a limit. -/
inductive Window where
  | minute | hour
deriving DecidableEq, Repr

/-- The length of a period in milliseconds. -/
def Window.millis : Window → Nat
  | .minute => 60 * 1000
  | .hour => 60 * 60 * 1000

/-- The length of a period in nanoseconds. -/
def Window.nanos (w : Window) : Nat := w.millis * 1000000

/-- The uses of a tool since a period began. The count stays below 32 bits as long as the period goes
on, whatever limits of 32 bits it is held against (`Quota.chargesOf_le_of_limits`). -/
structure Tally where
  start : Timestamp
  count : Nat := 0
deriving DecidableEq, Repr

namespace Tally

/-- The nanoseconds since the period began; none before it. -/
def elapsed (t : Tally) (now : Timestamp) : Nat := (now.nanoseconds - t.start.nanoseconds).toNat

def isOver (t : Tally) (w : Window) (now : Timestamp) : Bool := w.nanos ≤ t.elapsed now

/-- The milliseconds until the period is over. -/
def wait (t : Tally) (w : Window) (now : Timestamp) : Nat := (w.nanos - t.elapsed now) / 1000000

/-- Looks at a limit, if there is one: gives the wait if it is reached, and the tally, begun anew
if the period is over. -/
def check (t : Tally) (w : Window) (now : Timestamp) : Option Nat → Option Nat × Tally
  | none => (none, t)
  | some limit =>
    if t.isOver w now then (none, ⟨now, 0⟩)
    else if limit ≤ t.count then (some (t.wait w now), t)
    else (none, t)

/-- One use more. -/
def next (t : Tally) : Tally := { t with count := t.count + 1 }

end Tally

/-- The uses of a tool in its current minute and hour. -/
structure Usage where
  minute : Tally
  hour : Tally
deriving DecidableEq, Repr

/-- No uses yet. -/
def Usage.new (now : Timestamp) : Usage := ⟨⟨now, 0⟩, ⟨now, 0⟩⟩

/-- The period whose limit is reached, and the milliseconds until it is over. -/
structure Shortage where
  window : Window
  wait : Nat
deriving DecidableEq, Repr

structure Quota where
  usage : Table Usage := .empty
deriving DecidableEq, Repr, Inhabited

namespace Quota

def put (q : Quota) (tool : String) (u : Usage) : Quota := ⟨q.usage.insert tool u⟩

/-- The uses of a tool since its minute began. -/
def minuteCount (q : Quota) (tool : String) : Nat :=
  ((q.usage.get? tool).map (·.minute.count)).getD 0

/-- Admits a use of a tool and counts it, or says what is short. -/
def take (q : Quota) (now : Timestamp) (tool : String) (perMinute perHour : Option Nat) :
    Except Shortage Unit × Quota :=
  if perMinute.isNone && perHour.isNone then (.ok (), q)
  else
    let u := (q.usage.get? tool).getD (.new now)
    match u.minute.check .minute now perMinute with
    | (some wait, minute) => (.error ⟨.minute, wait⟩, q.put tool ⟨minute, u.hour⟩)
    | (none, minute) =>
      match u.hour.check .hour now perHour with
      | (some wait, hour) => (.error ⟨.hour, wait⟩, q.put tool ⟨minute, hour⟩)
      | (none, hour) => (.ok (), q.put tool ⟨minute.next, hour.next⟩)

end Quota

end CasefileHub
