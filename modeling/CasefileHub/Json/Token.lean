import CasefileHub.Json.Basic
/-!
# Tokens of JSON text

`Token.scan` splits a text into punctuation, words, texts and numbers. A number without fraction and
exponent that fits 64 bits is an integer; any other is a binary64 number, made from the first digits
that fit a 64-bit significand: the significand is rounded, then multiplied or divided by a power of
ten, and rounded again.
-/

namespace CasefileHub.Json

/-- Why a text is not JSON. -/
inductive ReadError where
  | unexpectedEnd
  | unexpected (c : Char)
  | expected (what : String)
  | badEscape
  | controlInText
  | badNumber
  | numberOutOfRange
  | tooDeep
  | trailing
deriving DecidableEq, Repr

def ReadError.message : ReadError → String
  | .unexpectedEnd => "the text ends too early"
  | .unexpected c => "unexpected character " ++ String.ofList [c]
  | .expected what => "expected " ++ what
  | .badEscape => "invalid escape"
  | .controlInText => "control character in a text"
  | .badNumber => "invalid number"
  | .numberOutOfRange => "number out of range"
  | .tooDeep => "nested too deeply"
  | .trailing => "trailing characters"

inductive Token where
  | openObject | closeObject | openArray | closeArray | comma | colon
  | word (value : Json)
  | text (s : String)
  | number (n : Number)
deriving DecidableEq, Repr

/-! ## Texts -/

def hexValue? (c : Char) : Option Nat :=
  if '0' ≤ c ∧ c ≤ '9' then some (c.toNat - '0'.toNat)
  else if 'a' ≤ c ∧ c ≤ 'f' then some (c.toNat - 'a'.toNat + 10)
  else if 'A' ≤ c ∧ c ≤ 'F' then some (c.toNat - 'A'.toNat + 10)
  else none

def hex4? (a b c d : Char) : Option Nat := do
  let a ← hexValue? a
  let b ← hexValue? b
  let c ← hexValue? c
  let d ← hexValue? d
  return ((a * 16 + b) * 16 + c) * 16 + d

def simpleEscape? : Char → Option Char
  | '"' => some '"'
  | '\\' => some '\\'
  | '/' => some '/'
  | 'b' => some (Char.ofNat 8)
  | 'f' => some (Char.ofNat 12)
  | 'n' => some '\n'
  | 'r' => some '\r'
  | 't' => some '\t'
  | _ => none

/-- The rest of a text after its opening quote: its characters, and what follows the closing quote.
A surrogate stands only in a pair. -/
def scanText : List Char → Except ReadError (List Char × List Char)
  | [] => .error .unexpectedEnd
  | '"' :: rest => .ok ([], rest)
  | '\\' :: 'u' :: a :: b :: c :: d :: rest =>
    match hex4? a b c d with
    | none => .error .badEscape
    | some n =>
      if 0xD800 ≤ n ∧ n < 0xDC00 then
        match rest with
        | '\\' :: 'u' :: e :: f :: g :: h :: rest =>
          match hex4? e f g h with
          | none => .error .badEscape
          | some m =>
            if 0xDC00 ≤ m ∧ m < 0xE000 then
              (scanText rest).map fun (cs, after) =>
                (Char.ofNat (0x10000 + (n - 0xD800) * 0x400 + (m - 0xDC00)) :: cs, after)
            else .error .badEscape
        | _ => .error .badEscape
      else if 0xDC00 ≤ n ∧ n < 0xE000 then .error .badEscape
      else (scanText rest).map fun (cs, after) => (Char.ofNat n :: cs, after)
  | '\\' :: c :: rest =>
    match simpleEscape? c with
    | some e => (scanText rest).map fun (cs, after) => (e :: cs, after)
    | none => .error .badEscape
  | c :: rest =>
    if c = '\\' then .error .badEscape
    else if c.toNat < 0x20 then .error .controlInText
    else (scanText rest).map fun (cs, after) => (c :: cs, after)

/-! ## Numbers -/

def digitValue (c : Char) : Nat := c.toNat - '0'.toNat

/-- The greatest 64-bit significand. -/
def significandLimit : Nat := Nat.pow 2 64 - 1

/-- Adds digits to a significand as long as it fits 64 bits; also how many digits were added. -/
def gather (significand : Nat) : List Nat → Nat × Nat
  | [] => (significand, 0)
  | d :: rest =>
    if significand * 10 + d ≤ significandLimit then
      let (s, n) := gather (significand * 10 + d) rest
      (s, n + 1)
    else (significand, 0)

def power10 (n : Nat) : Binary64 := (Binary64.ofNat? (Nat.pow 10 n)).getD default

/-- A division by `10 ^ n`, in steps of at most `10 ^ 308`. -/
def scaleDown (x : Binary64) (n : Nat) : Nat → Binary64
  | 0 => Binary64.zero false
  | fuel + 1 =>
    if n ≤ 308 then (x.div? (power10 n)).getD default
    else if x.isZero then x
    else scaleDown ((x.div? (power10 308)).getD default) (n - 308) fuel

/-- A significand times a power of ten; zero after four steps down. -/
def scale? (significand : Nat) (exponent : Int) : Option Binary64 :=
  let x := Binary64.ofInt significand
  if 0 ≤ exponent then
    if exponent ≤ 308 then x.mul? (power10 exponent.toNat)
    else if x.isZero then some x
    else none
  else some (scaleDown x (-exponent).toNat 4)

def splitDigits (cs : List Char) : List Nat × List Char :=
  ((cs.takeWhile Char.isDigit).map digitValue, cs.dropWhile Char.isDigit)

/-- Digits after a point, if a point follows; there must be one digit then. -/
def scanFraction : List Char → Except ReadError (Option (List Nat) × List Char)
  | '.' :: rest =>
    let (digits, rest) := splitDigits rest
    if digits.isEmpty then .error .badNumber else .ok (some digits, rest)
  | rest => .ok (none, rest)

def scanSign : List Char → Bool × List Char
  | '-' :: rest => (true, rest)
  | '+' :: rest => (false, rest)
  | rest => (false, rest)

/-- An exponent, if its letter follows; there must be one digit then. -/
def scanExponent : List Char → Except ReadError (Option Int × List Char)
  | [] => .ok (none, [])
  | c :: rest =>
    if c = 'e' ∨ c = 'E' then
      let (negative, rest) := scanSign rest
      let (digits, rest) := splitDigits rest
      let n : Nat := digits.foldl (fun n d => 10 * n + d) 0
      if digits.isEmpty then .error .badNumber
      else .ok (some (if negative then -(n : Int) else n), rest)
    else .ok (none, c :: rest)

/-- The number made of whole digits, digits after the point and an exponent. Minus zero and
negative numbers beyond 64 bits are binary64 numbers. -/
def numberOf (negative : Bool) (whole : List Nat) (fraction : Option (List Nat))
    (exponent : Option Int) : Except ReadError Number :=
  let (significand, taken) := gather 0 whole
  let fits := taken == whole.length && (!negative || (significand != 0 && significand ≤ Nat.pow 2 63))
  if fits && fraction.isNone && exponent.isNone then
    .ok (.int (if negative then -(significand : Int) else significand))
  else
    let (significand, more) := gather significand (fraction.getD [])
    match scale? significand ((whole.length : Int) - taken - more + exponent.getD 0) with
    | some x => .ok (.real (if negative then x.neg else x))
    | none => .error .numberOutOfRange

/-- A number after its sign: no zero stands in front of another digit. -/
def scanNumber (negative : Bool) (cs : List Char) : Except ReadError (Number × List Char) := do
  let (whole, rest) := splitDigits cs
  if whole.isEmpty || (whole.length > 1 && whole.head? == some 0) then throw .badNumber
  let (fraction, rest) ← scanFraction rest
  let (exponent, rest) ← scanExponent rest
  return (← numberOf negative whole fraction exponent, rest)

/-! ## Tokens -/

def isSpace (c : Char) : Bool := c == ' ' || c == '\n' || c == '\t' || c == '\r'

def scanWord (cs : List Char) : Option (Token × List Char) :=
  match cs with
  | 'n' :: 'u' :: 'l' :: 'l' :: rest => some (.word .null, rest)
  | 't' :: 'r' :: 'u' :: 'e' :: rest => some (.word (.bool true), rest)
  | 'f' :: 'a' :: 'l' :: 's' :: 'e' :: rest => some (.word (.bool false), rest)
  | _ => none

def punctuation? : Char → Option Token
  | '\x7b' => some .openObject
  | '\x7d' => some .closeObject
  | '[' => some .openArray
  | ']' => some .closeArray
  | ',' => some .comma
  | ':' => some .colon
  | _ => none

/-- The first token of a text that starts with no space, and the rest. -/
def scanToken : List Char → Except ReadError (Token × List Char)
  | [] => .error .unexpectedEnd
  | c :: rest =>
    match punctuation? c with
    | some t => .ok (t, rest)
    | none =>
      if c = '"' then (scanText rest).map fun (cs, after) => (.text (String.ofList cs), after)
      else if c = '-' then (scanNumber true rest).map fun (n, after) => (.number n, after)
      else if c.isDigit then (scanNumber false (c :: rest)).map fun (n, after) => (.number n, after)
      else
        match scanWord (c :: rest) with
        | some found => .ok found
        | none => .error (.unexpected c)

/-- The tokens of a text, at most `fuel` of them. -/
def scanTokens : Nat → List Char → Except ReadError (List Token)
  | 0, cs => if cs.all isSpace then .ok [] else .error .unexpectedEnd
  | fuel + 1, cs =>
    match cs.dropWhile isSpace with
    | [] => .ok []
    | c :: rest => do
      let (t, after) ← scanToken (c :: rest)
      let more ← scanTokens fuel after
      return t :: more

/-- The tokens of a text. Each takes a character at least. -/
def Token.scan (cs : List Char) : Except ReadError (List Token) := scanTokens cs.length cs

end CasefileHub.Json
