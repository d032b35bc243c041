/-!
# Finite binary64 numbers

A number is a sign, a significand of at most 53 bits and a shift: its magnitude is
`significand * 2 ^ shift` units of `2 ^ -1074`. Each magnitude has one such form. Arithmetic is
exact on magnitudes and then rounded to the nearest number, ties to an even significand.

    ofInt, ofRatio?, mul?, div?    rounded once
    scaled                         the exact value in units, by which numbers compare
-/

namespace CasefileHub

/-- A finite binary64 number. -/
structure Binary64 where
  negative : Bool
  significand : Nat
  shift : Nat
  /-- A significand below 2 ^ 52 belongs to the smallest numbers only. -/
  canonical : significand < Nat.pow 2 53 ∧ shift ≤ 2045 ∧ (significand < Nat.pow 2 52 → shift = 0)
deriving DecidableEq, Repr

namespace Binary64

/-- The magnitude in units of 2 ^ -1074. -/
def magnitude (x : Binary64) : Nat := x.significand * Nat.pow 2 x.shift

/-- The exact value in units of 2 ^ -1074. -/
def scaled (x : Binary64) : Int := if x.negative then -(x.magnitude : Int) else x.magnitude

/-- One in units of 2 ^ -1074. -/
def unit : Nat := Nat.pow 2 1074

def zero (negative : Bool) : Binary64 := ⟨negative, 0, 0, by decide⟩

instance : Inhabited Binary64 := ⟨zero false⟩

def isZero (x : Binary64) : Bool := x.significand == 0

def neg (x : Binary64) : Binary64 := { x with negative := !x.negative }

def lt (x y : Binary64) : Bool := x.scaled < y.scaled

/-- Equality of values, for which the two zeros are one number. -/
def same (x y : Binary64) : Bool := x.scaled == y.scaled

/-- The quotient rounded to the nearest natural number, a half to the even one. -/
def roundDiv (num den : Nat) : Nat :=
  let q := num / den
  let r := num % den
  if 2 * r < den then q else if den < 2 * r then q + 1 else q + q % 2

/-- A rounded significand at a shift; one that reaches 2 ^ 53 moves up by one binary place.
None beyond the greatest finite number. -/
def ofRounded? (negative : Bool) (significand shift : Nat) : Option Binary64 :=
  if h : significand < Nat.pow 2 53 ∧ shift ≤ 2045 ∧ (significand < Nat.pow 2 52 → shift = 0) then
    some ⟨negative, significand, shift, h⟩
  else if h : shift + 1 ≤ 2045 then some ⟨negative, Nat.pow 2 52, shift + 1, by simp [h]⟩
  else none

/-- The shift at which a magnitude of `num / den` units has a 53-bit significand. -/
def shiftFor (num den : Nat) : Nat := (num / den).log2 - 52

/-- The number nearest to `num / den` units. -/
def ofUnits? (negative : Bool) (num den : Nat) : Option Binary64 :=
  let shift := shiftFor num den
  ofRounded? negative (roundDiv num (den * Nat.pow 2 shift)) shift

/-- The number nearest to `num / den`. -/
def ofRatio? (negative : Bool) (num den : Nat) : Option Binary64 :=
  ofUnits? negative (num * unit) den

def ofNat? (n : Nat) : Option Binary64 := ofRatio? false n 1

/-- The number nearest to an integer of at most 64 bits (any that rounds to a finite number). -/
def ofInt (n : Int) : Binary64 := (ofRatio? (n < 0) n.natAbs 1).getD (zero (n < 0))

/-- The rounded product, if it is finite. -/
def mul? (x y : Binary64) : Option Binary64 :=
  ofUnits? (x.negative != y.negative) (x.magnitude * y.magnitude) unit

/-- The rounded quotient by a number other than zero, if it is finite. -/
def div? (x y : Binary64) : Option Binary64 :=
  ofUnits? (x.negative != y.negative) (x.magnitude * unit) y.magnitude

end Binary64

end CasefileHub
