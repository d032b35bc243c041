import CasefileHub.Json.Decode
/-!
# Points in time

A timestamp counts nanoseconds from the start of 1970. It is written as a date and a time in UTC
with as many digits of the second as it needs, in groups of three, and read from any offset.
-/

namespace CasefileHub

structure Timestamp where
  nanoseconds : Int
deriving DecidableEq, Repr, Inhabited

namespace Timestamp

/-- Days from the start of 1970 to a date of the Gregorian calendar. -/
def daysFromDate (year : Int) (month day : Nat) : Int :=
  let y := if month ≤ 2 then year - 1 else year
  let era := Int.fdiv y 400
  let yearOfEra := y - era * 400
  let shifted : Int := if 2 < month then month - 3 else month + 9
  let dayOfYear := Int.fdiv (153 * shifted + 2) 5 + day - 1
  let dayOfEra := yearOfEra * 365 + Int.fdiv yearOfEra 4 - Int.fdiv yearOfEra 100 + dayOfYear
  era * 146097 + dayOfEra - 719468

/-- The date so many days from the start of 1970. -/
def dateFromDays (days : Int) : Int × Nat × Nat :=
  let z := days + 719468
  let era := Int.fdiv z 146097
  let doe := z - era * 146097
  let yoe := Int.fdiv (doe - Int.fdiv doe 1460 + Int.fdiv doe 36524 - Int.fdiv doe 146096) 365
  let doy := doe - (365 * yoe + Int.fdiv yoe 4 - Int.fdiv yoe 100)
  let mp := Int.fdiv (5 * doy + 2) 153
  let day := doy - Int.fdiv (153 * mp + 2) 5 + 1
  let month := if mp < 10 then mp + 3 else mp - 9
  (yoe + era * 400 + (if month ≤ 2 then 1 else 0), month.toNat, day.toNat)

/-! ## Writing -/

def padded (width n : Nat) : String :=
  let digits := Nat.toDigits 10 n
  String.ofList (List.replicate (width - digits.length) '0' ++ digits)

/-- The digits of the second after the point, in groups of three. -/
def fractionText (nanos : Nat) : String :=
  if nanos = 0 then ""
  else if nanos % 1000000 = 0 then "." ++ padded 3 (nanos / 1000000)
  else if nanos % 1000 = 0 then "." ++ padded 6 (nanos / 1000)
  else "." ++ padded 9 nanos

def yearText (year : Int) : String :=
  if 0 ≤ year ∧ year ≤ 9999 then padded 4 year.toNat
  else (if year < 0 then "-" else "+") ++ padded 4 year.natAbs

def text (t : Timestamp) : String :=
  let seconds := Int.fdiv t.nanoseconds 1000000000
  let nanos := (t.nanoseconds - seconds * 1000000000).toNat
  let days := Int.fdiv seconds 86400
  let second := (seconds - days * 86400).toNat
  let (year, month, day) := dateFromDays days
  yearText year ++ "-" ++ padded 2 month ++ "-" ++ padded 2 day ++ "T" ++
    padded 2 (second / 3600) ++ ":" ++ padded 2 (second / 60 % 60) ++ ":" ++
    padded 2 (second % 60) ++ fractionText nanos ++ "Z"

def toJson (t : Timestamp) : Json := .str t.text

/-! ## Reading -/

/-- Why a text is no point in time. -/
inductive Problem where
  | tooShort | invalid | outOfRange | trailing
deriving DecidableEq, Repr

def Problem.message : Problem → String
  | .tooShort => "premature end of input"
  | .invalid => "input contains invalid characters"
  | .outOfRange => "input is out of range"
  | .trailing => "trailing input"

abbrev Scan (α : Type) := List Char → Except Problem (α × List Char)

def skipBlanks (cs : List Char) : List Char := cs.dropWhile Text.isBlank

/-- A number of at most so many digits. -/
def digits (most : Nat) : Scan Nat := fun cs =>
  let found := (cs.take most).takeWhile Char.isDigit
  if found.isEmpty then .error (if cs.isEmpty then .tooShort else .invalid)
  else
    .ok (found.foldl (fun n d => 10 * n + (d.toNat - '0'.toNat)) 0, cs.drop found.length)

/-- A number of two digits between two limits. -/
def field (low high : Nat) : Scan Nat := fun cs => do
  let (n, rest) ← digits 2 (skipBlanks cs)
  if low ≤ n ∧ n ≤ high then .ok (n, rest) else .error .outOfRange

def mark (c : Char) : List Char → Except Problem (List Char) := fun cs =>
  match skipBlanks cs with
  | [] => .error .tooShort
  | d :: rest => if c = d then .ok rest else .error .invalid

def year : Scan Int := fun cs =>
  match skipBlanks cs with
  | '-' :: rest => do let (n, rest) ← digits rest.length rest; return (-(n : Int), rest)
  | '+' :: rest => do let (n, rest) ← digits rest.length rest; return ((n : Int), rest)
  | cs => do let (n, rest) ← digits 4 cs; return ((n : Int), rest)

/-- Digits of the second after a point; those after the ninth do not count. -/
def fraction : Scan Nat
  | '.' :: rest =>
    let found := rest.takeWhile Char.isDigit
    if found.isEmpty then .error (if rest.isEmpty then .tooShort else .invalid)
    else
      let nine := (found ++ List.replicate 9 '0').take 9
      .ok (nine.foldl (fun n d => 10 * n + (d.toNat - '0'.toNat)) 0, rest.dropWhile Char.isDigit)
  | cs => .ok (0, cs)

/-- Two digits at once. -/
def pair : Scan Nat
  | a :: b :: rest =>
    if a.isDigit && b.isDigit then
      .ok ((a.toNat - '0'.toNat) * 10 + (b.toNat - '0'.toNat), rest)
    else .error .invalid
  | _ => .error .tooShort

/-- An offset from UTC in seconds: a letter z, the name UTC, or a sign, hours and minutes. -/
def offset : Scan Int := fun cs =>
  match skipBlanks cs with
  | [] => .error .tooShort
  | c :: rest =>
    let name := ((c :: rest).take 3).map Char.toLower
    if name = ['u', 't', 'c'] then .ok (0, rest.drop 2)
    else if c = 'z' ∨ c = 'Z' then .ok (0, rest)
    else if c = '+' ∨ c = '-' ∨ c.toNat = 0x2212 then do
      let (hours, rest) ← pair rest
      let rest := rest.dropWhile fun c => c == ':' || Text.isBlank c
      let (minutes, rest) ← pair rest
      if 60 ≤ minutes ∨ 24 ≤ hours then throw .outOfRange
      let seconds : Int := hours * 3600 + minutes * 60
      return (if c = '+' then seconds else -seconds, rest)
    else .error .invalid

def daysInMonth (year : Int) (month : Nat) : Nat :=
  if month = 2 then
    if Int.fmod year 4 = 0 ∧ (Int.fmod year 100 ≠ 0 ∨ Int.fmod year 400 = 0) then 29 else 28
  else if month = 4 ∨ month = 6 ∨ month = 9 ∨ month = 11 then 30
  else 31

/-- The point in time that a text names. -/
def read (s : String) : Except Problem Timestamp := do
  let (y, cs) ← year s.toList
  let (month, cs) ← field 1 12 (← mark '-' cs)
  let (day, cs) ← field 1 31 (← mark '-' cs)
  let cs ← match cs with
    | [] => throw .tooShort
    | c :: rest => if c = 'T' ∨ c = 't' ∨ c = ' ' then pure rest else throw .invalid
  let (hour, cs) ← field 0 23 cs
  let (minute, cs) ← field 0 59 (← mark ':' cs)
  let (second, cs) ← field 0 60 (← mark ':' cs)
  let (nanos, cs) ← fraction cs
  let (shift, cs) ← offset cs
  if !(skipBlanks cs).isEmpty then throw .trailing
  if daysInMonth y month < day then throw .outOfRange
  let seconds := daysFromDate y month day * 86400 + hour * 3600 + minute * 60 + second - shift
  return ⟨seconds * 1000000000 + nanos⟩

def decoder : Decoder Timestamp
  | .str s =>
    match read s with
    | .ok t => .ok t
    | .error p => .error (.malformedTime p.message)
  | v => .error (.invalidType v.found "an RFC 3339 formatted date and time string")

end Timestamp

end CasefileHub
