import CasefileHub.Binary64
/-!
# Decimal text of binary64 numbers

The shortest digits of a number are the fewest that read back as that number, and of those the
nearest to it. For each count of digits only the two neighbours of the value on that decimal grid
can lie among the reals that round to it.

    shortest x = (digits, exponent)        the value is read from  digits * 10 ^ exponent
    text       1.0   0.00001   1e+16       with a fraction or an exponent
    plainText  1     0.00001   10000000000000000
-/

namespace CasefileHub.Binary64

/-- Four times the ends of the interval of reals that round to the number, and its middle, in
units. The lower half is narrower at a power of two. -/
structure Interval where
  low : Nat
  middle : Nat
  high : Nat
  closed : Bool

def interval (x : Binary64) : Interval where
  low := if x.significand = Nat.pow 2 52 ∧ x.shift ≠ 0 then (4 * x.significand - 1) * Nat.pow 2 x.shift
    else (4 * x.significand - 2) * Nat.pow 2 x.shift
  middle := 4 * x.magnitude
  high := (4 * x.significand + 2) * Nat.pow 2 x.shift
  closed := x.significand % 2 == 0

/-- Whether `digits * 10 ^ exponent` lies in the interval. -/
def Interval.holds (i : Interval) (num den : Nat) : Bool :=
  if i.closed then i.low * den ≤ num && num ≤ i.high * den
  else i.low * den < num && num < i.high * den

/-- The power of ten at or below a positive value given in quarter units. -/
def decimalExponent (middle : Nat) : Int :=
  let one := 4 * unit
  if one ≤ middle then ((Nat.toDigits 10 (middle / one)).length : Int) - 1
  else
    match (List.range 325).find? (fun j => one ≤ middle * Nat.pow 10 j) with
    | some j => -(j : Int)
    | none => -325

/-- The grid of step `10 ^ exponent`, as quarter units over a denominator. -/
def gridStep (exponent : Int) : Nat × Nat :=
  if 0 ≤ exponent then (4 * unit * Nat.pow 10 exponent.toNat, 1) else (4 * unit, Nat.pow 10 (-exponent).toNat)

/-- The best point of one grid in the interval: the nearer neighbour, of two equally near ones the
even one. -/
def bestOnGrid (i : Interval) (exponent : Int) : Option Nat :=
  let (num, den) := gridStep exponent
  let below := i.middle * den / num
  let above := below + 1
  let hitBelow := below ≠ 0 && i.holds (below * num) den
  let hitAbove := i.holds (above * num) den
  match hitBelow, hitAbove with
  | false, false => none
  | true, false => some below
  | false, true => some above
  | true, true =>
    let fromBelow := i.middle * den - below * num
    let toAbove := above * num - i.middle * den
    if fromBelow < toAbove then some below
    else if toAbove < fromBelow then some above
    else some (below + below % 2)

/-- The first grid with a point in the interval, from one digit to seventeen. -/
def shortestFrom (i : Interval) (top : Int) : Nat → Nat → Nat × Int
  | 0, _ => (0, 0)
  | fuel + 1, count =>
    let exponent := top - count + 1
    match bestOnGrid i exponent with
    | some digits => (digits, exponent)
    | none => shortestFrom i top fuel (count + 1)

/-- The fewest digits that read back as the magnitude, with the power of ten they are scaled by. -/
def shortest (x : Binary64) : Nat × Int :=
  if x.isZero then (0, 0)
  else shortestFrom x.interval (decimalExponent x.interval.middle) 17 1

/-- Digits without trailing zeros, and the position of the point after the first digit. -/
def normalDigits (x : Binary64) : List Char × Int :=
  let (digits, exponent) := x.shortest
  let all := Nat.toDigits 10 digits
  let kept := (all.reverse.dropWhile (· == '0')).reverse
  (kept, exponent + all.length - 1)

/-- Digits with the point after position `top`, padded with zeros on either side. -/
def positional (digits : List Char) (top : Int) : List Char × List Char :=
  if top < 0 then (['0'], List.replicate (-top - 1).toNat '0' ++ digits)
  else
    let whole := top.toNat + 1
    (digits.take whole ++ List.replicate (whole - digits.length) '0', digits.drop whole)

def signText (x : Binary64) : String := if x.negative then "-" else ""

/-- Positional from 1e-5 up to 1e16 and for zero, always with a fraction; else one digit, the
others after a point, and a signed exponent. -/
def text (x : Binary64) : String :=
  let (digits, top) := x.normalDigits
  x.signText ++
    if digits.isEmpty then "0.0"
    else if -5 ≤ top ∧ top < 16 then
      let (whole, fraction) := positional digits top
      String.ofList (whole ++ '.' :: if fraction.isEmpty then ['0'] else fraction)
    else
      let mantissa := match digits with
        | [d] => [d]
        | d :: rest => d :: '.' :: rest
        | [] => []
      String.ofList mantissa ++ "e" ++ (if top < 0 then "-" else "+") ++ Nat.repr top.natAbs

/-- Positional at every size, with a fraction only where there is one. -/
def plainText (x : Binary64) : String :=
  let (digits, top) := x.normalDigits
  x.signText ++
    if digits.isEmpty then "0"
    else
      let (whole, fraction) := positional digits top
      String.ofList (whole ++ if fraction.isEmpty then [] else '.' :: fraction)

end CasefileHub.Binary64
