import CasefileHub.Entries
import CasefileHub.Binary64
/-!
# JSON values

Integers and binary64 numbers are different values: `1` is not `1.0`. An object lists its members;
a *normal* value lists the members of every object in ascending order of their names, each name
once, and `normalize` gives every value that form, the last of equal names counting.
-/

namespace CasefileHub

/-- A JSON number: an integer of 64 bits, signed or not, or a finite binary64 number. -/
inductive Number where
  | int (n : Int)
  | real (x : Binary64)
deriving DecidableEq, Repr

inductive Json where
  | null
  | bool (b : Bool)
  | num (n : Number)
  | str (s : String)
  | arr (items : List Json)
  | obj (members : List (String × Json))
deriving Repr, Inhabited

namespace Number

/-- Equality of numbers: of one kind and the same value, where the two zeros are one. -/
def same : Number → Number → Bool
  | .int a, .int b => a == b
  | .real a, .real b => a.same b
  | _, _ => false

/-- The nearest binary64 number. -/
def toReal : Number → Binary64
  | .int n => Binary64.ofInt n
  | .real x => x

end Number

namespace Json

def int (n : Int) : Json := .num (.int n)

def nat (n : Nat) : Json := .num (.int n)

def text? : Json → Option String
  | .str s => some s
  | _ => none

def isNull : Json → Bool
  | .null => true
  | _ => false

/-- The member of a name, in an object. -/
def member? (name : String) : Json → Option Json
  | .obj members => Entries.lookup name members
  | _ => none

/-- A text or null. -/
def ofOption (write : α → Json) : Option α → Json
  | some a => write a
  | none => .null

def strings (l : List String) : Json := .arr (l.map .str)

/-! ## Equality -/

mutual

/-- Decides equality by the parts of a value. -/
def decEq : (a b : Json) → Decidable (a = b)
  | .null, .null => isTrue rfl
  | .bool a, .bool b => decidable_of_iff (a = b) (by simp)
  | .num a, .num b => decidable_of_iff (a = b) (by simp)
  | .str a, .str b => decidable_of_iff (a = b) (by simp)
  | .arr a, .arr b =>
    match decEqItems a b with
    | isTrue h => isTrue (by rw [h])
    | isFalse h => isFalse (fun e => h (by cases e; rfl))
  | .obj a, .obj b =>
    match decEqMembers a b with
    | isTrue h => isTrue (by rw [h])
    | isFalse h => isFalse (fun e => h (by cases e; rfl))
  | .null, .bool _ | .null, .num _ | .null, .str _ | .null, .arr _ | .null, .obj _
  | .bool _, .null | .bool _, .num _ | .bool _, .str _ | .bool _, .arr _ | .bool _, .obj _
  | .num _, .null | .num _, .bool _ | .num _, .str _ | .num _, .arr _ | .num _, .obj _
  | .str _, .null | .str _, .bool _ | .str _, .num _ | .str _, .arr _ | .str _, .obj _
  | .arr _, .null | .arr _, .bool _ | .arr _, .num _ | .arr _, .str _ | .arr _, .obj _
  | .obj _, .null | .obj _, .bool _ | .obj _, .num _ | .obj _, .str _ | .obj _, .arr _ =>
    isFalse (by simp)
termination_by structural a => a

def decEqItems : (a b : List Json) → Decidable (a = b)
  | [], [] => isTrue rfl
  | x :: xs, y :: ys =>
    match decEq x y, decEqItems xs ys with
    | isTrue h, isTrue h' => isTrue (by rw [h, h'])
    | isFalse h, _ => isFalse (fun e => h (by cases e; rfl))
    | _, isFalse h => isFalse (fun e => h (by cases e; rfl))
  | [], _ :: _ | _ :: _, [] => isFalse (by simp)
termination_by structural a => a

def decEqMembers : (a b : List (String × Json)) → Decidable (a = b)
  | [], [] => isTrue rfl
  | x :: xs, y :: ys =>
    match decEqMember x y, decEqMembers xs ys with
    | isTrue h, isTrue h' => isTrue (by rw [h, h'])
    | isFalse h, _ => isFalse (fun e => h (by cases e; rfl))
    | _, isFalse h => isFalse (fun e => h (by cases e; rfl))
  | [], _ :: _ | _ :: _, [] => isFalse (by simp)
termination_by structural a => a

def decEqMember : (a b : String × Json) → Decidable (a = b)
  | (k, x), (l, y) =>
    match decEq x y with
    | isTrue h => decidable_of_iff (k = l) (by simp [h])
    | isFalse h => isFalse (fun e => h (by cases e; rfl))
termination_by structural a => a

end

instance : DecidableEq Json := decEq

mutual

/-- Equality of values as the numbers in them compare. -/
def same : Json → Json → Bool
  | .null, .null => true
  | .bool a, .bool b => a == b
  | .num a, .num b => a.same b
  | .str a, .str b => a == b
  | .arr a, .arr b => sameItems a b
  | .obj a, .obj b => sameMembers a b
  | _, _ => false
termination_by structural a => a

def sameItems : List Json → List Json → Bool
  | [], [] => true
  | x :: xs, y :: ys => same x y && sameItems xs ys
  | _, _ => false
termination_by structural a => a

def sameMembers : List (String × Json) → List (String × Json) → Bool
  | [], [] => true
  | x :: xs, y :: ys => sameMember x y && sameMembers xs ys
  | _, _ => false
termination_by structural a => a

def sameMember : String × Json → String × Json → Bool
  | (k, x), (l, y) => k == l && same x y
termination_by structural a => a

end

/-! ## Normal form -/

mutual

/-- Orders the members of every object, of equal names keeping the last. -/
def normalize : Json → Json
  | .arr items => .arr (normalizeItems items)
  | .obj members => .obj (Entries.ofList (normalizeMembers members))
  | v => v
termination_by structural v => v

def normalizeItems : List Json → List Json
  | [] => []
  | v :: rest => normalize v :: normalizeItems rest
termination_by structural l => l

def normalizeMembers : List (String × Json) → List (String × Json)
  | [] => []
  | m :: rest => normalizeMember m :: normalizeMembers rest
termination_by structural l => l

def normalizeMember : String × Json → String × Json
  | (name, v) => (name, normalize v)
termination_by structural m => m

end

mutual

/-- The members of every object are in ascending order. -/
def Normal : Json → Prop
  | .arr items => NormalItems items
  | .obj members => Entries.Ascending members ∧ NormalMembers members
  | _ => True
termination_by structural v => v

def NormalItems : List Json → Prop
  | [] => True
  | v :: rest => Normal v ∧ NormalItems rest
termination_by structural l => l

def NormalMembers : List (String × Json) → Prop
  | [] => True
  | m :: rest => NormalMember m ∧ NormalMembers rest
termination_by structural l => l

def NormalMember : String × Json → Prop
  | (_, v) => Normal v
termination_by structural m => m

end

end Json

end CasefileHub
