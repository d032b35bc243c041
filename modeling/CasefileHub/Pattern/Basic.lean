import CasefileHub.Text.Property
import CasefileHub.Text.Script
import CasefileHub.Text.CaseFolding
import CasefileHub.Text.Blank
/-!
# Patterns

A pattern is a regular expression over characters with assertions about the place between two
characters. `occursIn` looks for a match anywhere in a text: it keeps the patterns that the rest of
the text may still match, one list per place.

    passes place p          p matches the empty text at this place
    residuals place c p     what remains of p once it has matched c from this place
-/

namespace CasefileHub

/-- A set of characters. -/
inductive CharSet where
  | none
  | range (low high : Char)
  | group (name : String)
  | script (name : String)
  | property (name : String)
  | digit | word | space
  | union (a b : CharSet)
  | inter (a b : CharSet)
  | complement (a : CharSet)
  /-- With every case form of its members. -/
  | anyCase (a : CharSet)
deriving DecidableEq, Repr

namespace CharSet

def has : CharSet → Char → Bool
  | .none, _ => false
  | .range low high, c => low ≤ c && c ≤ high
  | .group name, c => Text.inGroup name (Text.category c)
  | .script name, c => Text.script c == name
  | .property name, c => Text.hasProperty name c
  | .digit, c => Text.isDigit c
  | .word, c => Text.isWord c
  | .space, c => Text.isBlank c
  | .union a b, c => a.has c || b.has c
  | .inter a b, c => a.has c && b.has c
  | .complement a, c => !a.has c
  | .anyCase a, c => (Text.caseForms c).any a.has

def single (c : Char) : CharSet := .range c c

def ofList (cs : List Char) : CharSet := cs.foldr (fun c s => .union (single c) s) .none

def any : CharSet := .complement .none

end CharSet

/-- A statement about the place between two characters. -/
inductive Assertion where
  | textStart | textEnd
  | lineStart | lineEnd
  | lineStartCrlf | lineEndCrlf
  | wordBoundary (words : CharSet)
  | notWordBoundary (words : CharSet)
  | wordStart (words : CharSet)
  | wordEnd (words : CharSet)
  | wordStartHalf (words : CharSet)
  | wordEndHalf (words : CharSet)
deriving DecidableEq, Repr

/-- A place in a text: the characters on its two sides. -/
structure Place where
  before : Option Char
  after : Option Char
deriving DecidableEq, Repr

def Assertion.holds (place : Place) : Assertion → Bool
  | .textStart => place.before.isNone
  | .textEnd => place.after.isNone
  | .lineStart => place.before.isNone || place.before == some '\n'
  | .lineEnd => place.after.isNone || place.after == some '\n'
  | .lineStartCrlf =>
    place.before.isNone || place.before == some '\n' ||
      (place.before == some '\r' && place.after != some '\n')
  | .lineEndCrlf =>
    place.after.isNone || place.after == some '\r' ||
      (place.after == some '\n' && place.before != some '\r')
  | .wordBoundary w => place.before.any w.has != place.after.any w.has
  | .notWordBoundary w => place.before.any w.has == place.after.any w.has
  | .wordStart w => !place.before.any w.has && place.after.any w.has
  | .wordEnd w => place.before.any w.has && !place.after.any w.has
  | .wordStartHalf w => !place.before.any w.has
  | .wordEndHalf w => !place.after.any w.has

inductive Pattern where
  | empty
  | set (s : CharSet)
  | assertion (a : Assertion)
  /-- A pattern in parentheses, which matches what it matches without them. -/
  | group (p : Pattern)
  | seq (p q : Pattern)
  | alt (p q : Pattern)
  /-- From `min` up to `max` copies, without a limit if there is no `max`. -/
  | copies (p : Pattern) (min : Nat) (max : Option Nat)
deriving DecidableEq, Repr

namespace Pattern

/-- Matches the empty text at a place. -/
def passes (place : Place) : Pattern → Bool
  | .empty => true
  | .set _ => false
  | .assertion a => a.holds place
  | .group p => p.passes place
  | .seq p q => p.passes place && q.passes place
  | .alt p q => p.passes place || q.passes place
  | .copies p min _ => min == 0 || p.passes place

def andThen : Pattern → Pattern → Pattern
  | .empty, q => q
  | p, q => .seq p q

/-- What may remain to be matched after a character that follows a place. Copies that match the
empty text at the place do not count as taken. -/
def residuals (place : Place) (c : Char) : Pattern → List Pattern
  | .empty => []
  | .set s => if s.has c then [.empty] else []
  | .assertion _ => []
  | .group p => p.residuals place c
  | .seq p q =>
    (p.residuals place c).map (·.andThen q) ++
      if p.passes place then q.residuals place c else []
  | .alt p q => p.residuals place c ++ q.residuals place c
  | .copies p min max =>
    if max == some 0 then []
    else
      let rest := .copies p (if p.passes place then 0 else min - 1) (max.map (· - 1))
      (p.residuals place c).map (·.andThen rest)

/-- Whether one of the patterns under way, or the pattern from here on, matches a part of the text
that starts at or before this place. -/
def search (p : Pattern) (before : Option Char) : List Char → List Pattern → Bool
  | [], active => (p :: active).any (passes ⟨before, none⟩)
  | c :: rest, active =>
    let place : Place := ⟨before, some c⟩
    let states := p :: active
    states.any (passes place) ||
      search p (some c) rest ((states.flatMap (residuals place c)).eraseDups)

/-- Whether some part of the text matches. -/
def occursIn (p : Pattern) (s : String) : Bool := p.search none s.toList []

end Pattern

end CasefileHub
