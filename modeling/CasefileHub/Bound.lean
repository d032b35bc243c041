import CasefileHub.Json.Decode
/-!
# Bounds of numbers

A bound is any binary64 datum: a finite number, one of the infinities, or not a number. No number is
less or greater than what is not a number. JSON has the finite numbers only, and any other bound is
written as null.
-/

namespace CasefileHub

inductive Bound where
  | finite (x : Binary64)
  | infinite (negative : Bool)
  | nan
deriving DecidableEq, Repr

namespace Bound

/-- A number is less than the bound. -/
def isAbove : Bound → Binary64 → Bool
  | finite b, x => x.lt b
  | infinite negative, _ => !negative
  | nan, _ => false

/-- A number is greater than the bound. -/
def isBelow : Bound → Binary64 → Bool
  | finite b, x => b.lt x
  | infinite negative, _ => negative
  | nan, _ => false

def plainText : Bound → String
  | finite x => x.plainText
  | infinite negative => if negative then "-inf" else "inf"
  | nan => "NaN"

def isFinite : Bound → Bool
  | finite _ => true
  | _ => false

def toJson : Bound → Json
  | finite x => .num (.real x)
  | _ => .null

def decoder : Decoder Bound := fun v => finite <$> Decoder.real v

end Bound

end CasefileHub
