import CasefileHub.Text.Blank
/-!
# Identifiers

Casefiles, sessions and requests get identifiers from numbers that are used once. Each kind has a
form of its own, and different numbers have different identifiers.
-/

namespace CasefileHub.Identifier

/-- Hexadecimal digits, with zeros in front up to a width. -/
def hex (width n : Nat) : List Char :=
  let digits := Nat.toDigits 16 n
  List.replicate (width - digits.length) '0' ++ digits

/-- The identifier of a casefile. -/
def casefile (n : Nat) : String := String.ofList ("cf_".toList ++ hex 32 n)

/-- The identifier of a session. -/
def session (n : Nat) : String := String.ofList ("ts_".toList ++ hex 32 n)

/-- The identifier of a request: thirty digits in five groups, with a version of 4 and a variant
of 8 among them. -/
def request (n : Nat) : String :=
  let digits := hex 30 n
  String.ofList (digits.take 8 ++ '-' :: (digits.drop 8).take 4 ++ '-' :: '4' ::
    (digits.drop 12).take 3 ++ '-' :: '8' :: (digits.drop 15).take 3 ++ '-' :: digits.drop 18)

end CasefileHub.Identifier
