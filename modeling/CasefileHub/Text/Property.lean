import CasefileHub.Text.Category
import CasefileHub.Text.PropertyRuns
/-!
# Binary properties

A character has a property if its category says so, unless it lies in a run of departures: there
the contrary holds.
-/

namespace CasefileHub.Text

/-- Whether a code point lies in the second, fourth, sixth … run of given lengths. -/
def inEvenRun : List Nat → Nat → Bool
  | skipped :: departing :: rest, n =>
    if n < skipped then false
    else if n < skipped + departing then true
    else inEvenRun rest (n - (skipped + departing))
  | _, _ => false

/-- Each property's names and categories, and the lengths of its runs. -/
def propertyTable : List (List String × List String × List Nat) :=
  propertyRuns.map fun p =>
    (p.names, p.categories,
      p.departures.flatMap fun text =>
        (text.toList.splitOn ' ').map decimalNumber)

/-- The first name of the property with a name in lower case, without blanks, hyphens and
underscores. -/
def propertyNamed? (name : String) : Option String :=
  (propertyTable.find? fun (names, _) => names.contains name).bind fun (names, _) => names.head?

/-- Whether a character has the property of a first name. -/
def hasProperty (name : String) (c : Char) : Bool :=
  match propertyTable.find? fun (names, _) => names.head? == some name with
  | some (_, categories, runs) => categories.contains (category c) != inEvenRun runs c.toNat
  | none => false

end CasefileHub.Text
