import CasefileHub.Text.CategoryRuns
import CasefileHub.Text.Run
/-!
# General categories and the classes made of them

Each code point has one general category, named by two letters of which the first is its group
(`Lu` is an upper-case letter, `L` any letter).

    isDigit       decimal digits of every script
    isWord        letters, marks, digits, connectors and the two joiners
    isPrintable   what can be shown as it is: no control, format, unassigned or separator character
-/

namespace CasefileHub.Text

def categoryTable : Array Run := readRuns 2 categoryRuns

def category (c : Char) : String := labelAt categoryTable c

/-- Whether a category is the one named, or belongs to the group named. -/
def inGroup (group category : String) : Bool :=
  if group == "LC" then ["Lu", "Ll", "Lt"].contains category
  else group == category || group.toList == category.toList.take 1

def isDigit (c : Char) : Bool := category c == "Nd"

/-- Symbols that count as letters: circled and squared Latin letters. -/
def isLetterSymbol (n : Nat) : Bool :=
  (0x24B6 ≤ n && n ≤ 0x24E9) || (0x1F130 ≤ n && n ≤ 0x1F149) || (0x1F150 ≤ n && n ≤ 0x1F169) ||
    (0x1F170 ≤ n && n ≤ 0x1F189)

def isWord (c : Char) : Bool :=
  let k := category c
  let n := c.toNat
  inGroup "L" k || inGroup "M" k || k == "Nd" || k == "Nl" || k == "Pc" ||
    n == 0x200C || n == 0x200D || isLetterSymbol n

def isPrintable (c : Char) : Bool :=
  c == ' ' || !(["Cc", "Cf", "Cs", "Co", "Cn", "Zl", "Zp", "Zs"].contains (category c))

/-- Spacing characters that extend the character before them. -/
def otherExtenders : List (Nat × Nat) := [
  (0x9BE, 0x9BE), (0x9D7, 0x9D7), (0xB3E, 0xB3E), (0xB57, 0xB57), (0xBBE, 0xBBE), (0xBD7, 0xBD7),
  (0xCC2, 0xCC2), (0xCD5, 0xCD6), (0xD3E, 0xD3E), (0xD57, 0xD57), (0xDCF, 0xDCF), (0xDDF, 0xDDF),
  (0x1B35, 0x1B35), (0x200C, 0x200C), (0x302E, 0x302F), (0xFF9E, 0xFF9F), (0x1133E, 0x1133E),
  (0x11357, 0x11357), (0x114B0, 0x114B0), (0x114BD, 0x114BD), (0x115AF, 0x115AF),
  (0x11930, 0x11930), (0x1D165, 0x1D165), (0x1D16E, 0x1D172), (0xE0020, 0xE007F)]

/-- Characters that are shown together with the one before them. -/
def isExtender (c : Char) : Bool :=
  let k := category c
  k == "Mn" || k == "Me" || otherExtenders.any fun (low, high) => low ≤ c.toNat && c.toNat ≤ high

end CasefileHub.Text
