import CasefileHub.Pattern.Basic
/-!
# Limits of patterns

A pattern with all its copies written out is an automaton over the bytes of a text. `Pattern.size`
estimates how many states it has, and a pattern of more than `maxSize` states is too large: at 32
bytes a state it would take more than ten mebibytes. `Pattern.depth` counts the groups, copies,
sequences and alternatives around one another, of which `maxDepth` are allowed.
-/

namespace CasefileHub

namespace CharSet

/-- Known to have ASCII members only. -/
def isAscii : CharSet → Bool
  | .none => true
  | .range _ high => high.toNat < 0x80
  | .union a b => a.isAscii && b.isAscii
  | .inter a b => a.isAscii || b.isAscii
  | .anyCase a => a.isAscii
  | _ => false

/-- States that read one member: one for a byte, more where the members take several bytes. -/
def size (s : CharSet) : Nat :=
  if s.isAscii then 1
  else
    match s with
    | .none | .range _ _ => 4
    | .space => 8
    | .script _ => 20
    | .digit => 60
    | .group _ | .property _ | .word => 640
    | .union a b => a.size + b.size
    | .inter a b => max a.size b.size
    | .complement a => a.size + 8
    | .anyCase a => 2 * a.size

end CharSet

namespace Pattern

def size : Pattern → Nat
  | .empty | .assertion _ => 1
  | .set s => s.size
  | .group p => p.size + 2
  | .seq p q => p.size + q.size
  | .alt p q => p.size + q.size + 1
  | .copies p min none => (max 1 min) * p.size + 1
  | .copies p min (some max) => max * p.size + (max - min)

def maxSize : Nat := 327680

/-- A chain of sequences counts once, and so does a chain of alternatives. -/
def depth : Pattern → Nat
  | .empty | .set _ | .assertion _ => 0
  | .group p | .copies p _ _ => p.depth + 1
  | .seq p q => max (p.depth + 1) (match q with | .seq _ _ => q.depth | _ => q.depth + 1)
  | .alt p q => max (p.depth + 1) (match q with | .alt _ _ => q.depth | _ => q.depth + 1)

def maxDepth : Nat := 250

/-- Neither too large nor too deep. -/
def isWithinLimits (p : Pattern) : Bool := p.size ≤ maxSize && p.depth ≤ maxDepth

end Pattern

end CasefileHub
