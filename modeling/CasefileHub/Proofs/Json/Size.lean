import CasefileHub.Json.Basic
/-!
# Sizes of values

Integers are machine words, and containers stand inside each other to some depth. A text is as long
as it has characters and a list as it has items; other values have no length.

    v.allNumbers p                 every number in `v`, however deep, has `p`
    v.depth                        containers inside each other; 0 for a value that is none
    v.length?                      characters or items
-/

namespace CasefileHub

/-! ## Machine words -/

/-- The integer has 64 bits, signed or not: it is at least -2 ^ 63, and below 2 ^ 64. -/
def IsWord (n : Int) : Bool := -0x8000000000000000 ≤ n && n < 0x10000000000000000

theorem isWord_iff (n : Int) :
    IsWord n = true ↔ -0x8000000000000000 ≤ n ∧ n < 0x10000000000000000 := by
  unfold IsWord
  rw [Bool.and_eq_true, decide_eq_true_eq, decide_eq_true_eq]

theorem natAbs_of_isWord {n : Int} (h : IsWord n = true) : n.natAbs < Nat.pow 2 64 := by
  have hword := (isWord_iff n).1 h
  show n.natAbs < 0x10000000000000000
  omega

namespace Number

/-- An integer is a machine word. -/
def fits : Number → Bool
  | .int n => IsWord n
  | .real _ => true

/-- The number is an integer, and a machine word. -/
def isWord : Number → Bool
  | .int n => IsWord n
  | .real _ => false

end Number

namespace Json

/-! ## Numbers in a value -/

mutual

/-- Every number in a value has a property. -/
def allNumbers (p : Number → Bool) : Json → Bool
  | .num n => p n
  | .arr items => allNumbersItems p items
  | .obj members => allNumbersMembers p members
  | _ => true
termination_by structural v => v

def allNumbersItems (p : Number → Bool) : List Json → Bool
  | [] => true
  | v :: rest => allNumbers p v && allNumbersItems p rest
termination_by structural l => l

def allNumbersMembers (p : Number → Bool) : List (String × Json) → Bool
  | [] => true
  | m :: rest => allNumbersMember p m && allNumbersMembers p rest
termination_by structural l => l

def allNumbersMember (p : Number → Bool) : String × Json → Bool
  | (_, v) => allNumbers p v
termination_by structural m => m

end

theorem allNumbers_of_mem {p : Number → Bool} {ms : List (String × Json)}
    (h : (Json.obj ms).allNumbers p = true) {m : String × Json} (hm : m ∈ ms) :
    m.2.allNumbers p = true := by
  replace h : allNumbersMembers p ms = true := h
  induction ms with
  | nil => cases hm
  | cons first rest ih =>
    obtain ⟨name, v⟩ := first
    obtain ⟨hfirst, hrest⟩ := Bool.and_eq_true_iff.1 h
    rcases List.mem_cons.1 hm with rfl | hmem
    · exact hfirst
    · exact ih hmem hrest

/-! ## Depth -/

mutual

/-- How many containers stand inside each other. -/
def depth : Json → Nat
  | .arr items => depthItems items + 1
  | .obj members => depthMembers members + 1
  | _ => 0
termination_by structural v => v

def depthItems : List Json → Nat
  | [] => 0
  | v :: rest => max (depth v) (depthItems rest)
termination_by structural l => l

def depthMembers : List (String × Json) → Nat
  | [] => 0
  | m :: rest => max (depthMember m) (depthMembers rest)
termination_by structural l => l

def depthMember : String × Json → Nat
  | (_, v) => depth v
termination_by structural m => m

end

/-! ## Content -/

def number? : Json → Option Number
  | .num n => some n
  | _ => none

/-- The characters of a text or the items of a list. -/
def length? : Json → Option Nat
  | .str s => some s.length
  | .arr items => some items.length
  | _ => none

end Json

end CasefileHub
