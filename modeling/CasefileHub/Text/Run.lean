/-!
# Runs of code points

A table over all code points is written as runs: a label of a fixed width, then the length of the
run if it is not one. `labelAt` looks a code point up.
-/

namespace CasefileHub.Text

/-- The code points from one on that share a label. -/
structure Run where
  first : Nat
  label : String
deriving Repr, Inhabited

/-- The number that decimal digits write. -/
def decimalNumber (digits : List Char) : Nat :=
  digits.foldl (fun n d => 10 * n + (d.toNat - '0'.toNat)) 0

def runsFrom (width start : Nat) : Nat → List Char → List Run
  | 0, _ | _, [] => []
  | fuel + 1, cs =>
    let rest := cs.drop width
    let digits := rest.takeWhile Char.isDigit
    let length := if digits.isEmpty then 1 else decimalNumber digits
    ⟨start, String.ofList (cs.take width)⟩ ::
      runsFrom width (start + length) fuel (rest.dropWhile Char.isDigit)

/-- The runs that texts write one after another, with labels of a width. -/
def readRuns (width : Nat) (texts : List String) : Array Run :=
  let cs := (String.join texts).toList
  (runsFrom width 0 cs.length cs).toArray

/-- The last run that starts at or below `n`, known to lie between two indices. -/
def findRun (runs : Array Run) (n : Nat) : Nat → Nat → Nat → Nat
  | 0, low, _ => low
  | fuel + 1, low, high =>
    if high ≤ low + 1 then low
    else
      let middle := (low + high) / 2
      if runs[middle]!.first ≤ n then findRun runs n fuel middle high
      else findRun runs n fuel low middle

def labelAt (runs : Array Run) (c : Char) : String :=
  runs[findRun runs c.toNat 16 0 runs.size]!.label

end CasefileHub.Text
