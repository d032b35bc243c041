/-!
# Blank characters

The characters with the Unicode property White_Space, and texts without them at either end.
`trim` removes the blank characters around a text, and leaves none there:

    trim (trim s) = trim s          (trim_trim)
-/

namespace CasefileHub.Text

/-- White_Space: five controls, the space, the next-line character and the Unicode separators. -/
def isBlank (c : Char) : Bool :=
  let n := c.toNat
  (0x09 ≤ n && n ≤ 0x0D) || n == 0x20 || n == 0x85 || n == 0xA0 || n == 0x1680 ||
    (0x2000 ≤ n && n ≤ 0x200A) || n == 0x2028 || n == 0x2029 || n == 0x202F || n == 0x205F ||
    n == 0x3000

def trimList (cs : List Char) : List Char :=
  ((cs.dropWhile isBlank).reverse.dropWhile isBlank).reverse

def trim (s : String) : String := String.ofList (trimList s.toList)

/-- A text of blank characters only. -/
def isAllBlank (s : String) : Bool := s.toList.all isBlank

/-- Lower case for the letters A to Z only; every other character stays. -/
def lowerAscii (s : String) : String := String.ofList (s.toList.map Char.toLower)

/-- Equality that does not tell the letters A to Z from a to z. -/
def sameIgnoringCase (a b : String) : Bool := lowerAscii a == lowerAscii b

/-- Lists of texts with a separator between neighbours. -/
def join (sep : String) : List String → String
  | [] => ""
  | [s] => s
  | s :: t :: rest => s ++ sep ++ join sep (t :: rest)

/-! ## What is left by trimming -/

theorem dropWhile_idem (cs : List Char) :
    (cs.dropWhile isBlank).dropWhile isBlank = cs.dropWhile isBlank := by
  induction cs with
  | nil => rfl
  | cons c cs ih =>
    by_cases h : isBlank c
    · simp [List.dropWhile, h, ih]
    · simp [List.dropWhile, h]

/-- No blank character stands at the front of a list. -/
def Leads (cs : List Char) : Prop := ∀ c, cs.head? = some c → isBlank c = false

theorem dropWhile_eq_self {cs : List Char} (h : Leads cs) : cs.dropWhile isBlank = cs := by
  cases cs with
  | nil => rfl
  | cons c cs => simp [List.dropWhile, h c rfl]

theorem leads_dropWhile (cs : List Char) : Leads (cs.dropWhile isBlank) := by
  induction cs with
  | nil => intro c h; cases h
  | cons c cs ih =>
    by_cases hc : isBlank c
    · simpa [List.dropWhile, hc] using ih
    · intro d h
      simp only [List.dropWhile, hc, List.head?_cons, Option.some.injEq] at h
      simpa [← h] using hc

/-- The front of a list that goes on is the front of its beginning. -/
theorem Leads.of_append {cs rest : List Char} (h : Leads (cs ++ rest)) : Leads cs := by
  cases cs with
  | nil => intro c h'; cases h'
  | cons c cs => exact h

theorem leads_trimList (cs : List Char) : Leads (trimList cs) := by
  have h : Leads (cs.dropWhile isBlank) := leads_dropWhile cs
  obtain ⟨blanks, hb⟩ := List.dropWhile_suffix isBlank (l := (cs.dropWhile isBlank).reverse)
  have : cs.dropWhile isBlank = trimList cs ++ blanks.reverse := by
    rw [trimList, ← List.reverse_append, hb, List.reverse_reverse]
  exact Leads.of_append (this ▸ h)

theorem trimList_trimList (cs : List Char) : trimList (trimList cs) = trimList cs := by
  have h := dropWhile_eq_self (leads_trimList cs)
  rw [trimList, h]
  simp only [trimList, List.reverse_reverse, dropWhile_idem]

theorem trim_trim (s : String) : trim (trim s) = trim s := by
  simp [trim, trimList_trimList]

end CasefileHub.Text
