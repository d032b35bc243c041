import CasefileHub.Pattern.Basic
/-!
# Sets by name

ASCII classes, and sets of characters named by a property, a general category or a script.
-/

namespace CasefileHub.Pattern

def asciiDigit : CharSet := .range '0' '9'
def asciiLetter : CharSet := .union (.range 'a' 'z') (.range 'A' 'Z')
def asciiWord : CharSet := .union asciiLetter (.union asciiDigit (.single '_'))
def asciiSpace : CharSet := .union (.range '\t' '\r') (.single ' ')

/-- The classes named between `[:` and `:]`. -/
def asciiClass? : String → Option CharSet
  | "alnum" => some (.union asciiLetter asciiDigit)
  | "alpha" => some asciiLetter
  | "ascii" => some (.range (Char.ofNat 0) (Char.ofNat 0x7F))
  | "blank" => some (.union (.single '\t') (.single ' '))
  | "cntrl" => some (.union (.range (Char.ofNat 0) (Char.ofNat 0x1F)) (.single (Char.ofNat 0x7F)))
  | "digit" => some asciiDigit
  | "graph" => some (.range '!' '~')
  | "lower" => some (.range 'a' 'z')
  | "print" => some (.range ' ' '~')
  | "punct" => some (.inter (.range '!' '~') (.complement (.union asciiLetter asciiDigit)))
  | "space" => some asciiSpace
  | "upper" => some (.range 'A' 'Z')
  | "word" => some asciiWord
  | "xdigit" => some (.union asciiDigit (.union (.range 'a' 'f') (.range 'A' 'F')))
  | _ => none

/-- Names of general categories and of groups of them. -/
def groupNames : List (String × String) := [
  ("l", "L"), ("letter", "L"), ("lc", "LC"), ("casedletter", "LC"),
  ("lu", "Lu"), ("uppercaseletter", "Lu"), ("ll", "Ll"), ("lowercaseletter", "Ll"),
  ("lt", "Lt"), ("titlecaseletter", "Lt"), ("lm", "Lm"), ("modifierletter", "Lm"),
  ("lo", "Lo"), ("otherletter", "Lo"),
  ("m", "M"), ("mark", "M"), ("combiningmark", "M"), ("mn", "Mn"), ("nonspacingmark", "Mn"),
  ("mc", "Mc"), ("spacingmark", "Mc"), ("me", "Me"), ("enclosingmark", "Me"),
  ("n", "N"), ("number", "N"), ("nd", "Nd"), ("decimalnumber", "Nd"), ("digit", "Nd"),
  ("nl", "Nl"), ("letternumber", "Nl"), ("no", "No"), ("othernumber", "No"),
  ("p", "P"), ("punctuation", "P"), ("punct", "P"), ("pc", "Pc"), ("connectorpunctuation", "Pc"),
  ("pd", "Pd"), ("dashpunctuation", "Pd"), ("ps", "Ps"), ("openpunctuation", "Ps"),
  ("pe", "Pe"), ("closepunctuation", "Pe"), ("pi", "Pi"), ("initialpunctuation", "Pi"),
  ("pf", "Pf"), ("finalpunctuation", "Pf"), ("po", "Po"), ("otherpunctuation", "Po"),
  ("s", "S"), ("symbol", "S"), ("sm", "Sm"), ("mathsymbol", "Sm"), ("sc", "Sc"),
  ("currencysymbol", "Sc"), ("sk", "Sk"), ("modifiersymbol", "Sk"), ("so", "So"),
  ("othersymbol", "So"),
  ("z", "Z"), ("separator", "Z"), ("zs", "Zs"), ("spaceseparator", "Zs"), ("zl", "Zl"),
  ("lineseparator", "Zl"), ("zp", "Zp"), ("paragraphseparator", "Zp"),
  ("c", "C"), ("other", "C"), ("cc", "Cc"), ("control", "Cc"), ("cntrl", "Cc"), ("cf", "Cf"),
  ("format", "Cf"), ("cs", "Cs"), ("surrogate", "Cs"), ("co", "Co"), ("privateuse", "Co"),
  ("cn", "Cn"), ("unassigned", "Cn")]

/-- Names of sets compare without case, blanks, hyphens, underscores, characters outside ASCII and
a leading `is`; `isc` is a name of its own. -/
def looseName (cs : List Char) : String :=
  let plain := fun (cs : List Char) =>
    (cs.map Char.toLower).filter fun c => c.toNat < 0x80 && !(c == ' ' || c == '-' || c == '_')
  String.ofList <| match cs with
    | i :: s :: rest =>
      if i.toLower == 'i' && s.toLower == 's' && plain rest != ['c'] then plain rest else plain cs
    | _ => plain cs

/-- A general category, a group of them, or one of three sets made of them. -/
def categoryNamed? : String → Option CharSet
  | "any" => some .any
  | "assigned" => some (.complement (.group "Cn"))
  | "ascii" => some (.range (Char.ofNat 0) (Char.ofNat 0x7F))
  | name => (groupNames.lookup name).map .group

def scriptNamed? (name : String) : Option CharSet := (Text.scriptNamed? name).map .script

/-- A property, else a category, else a script. -/
def setNamed? (name : String) : Option CharSet :=
  ((Text.propertyNamed? name).map .property).or ((categoryNamed? name).or (scriptNamed? name))

/-- What stands before the first place where a text goes on with the given one, and after it. -/
def cutAt (mark : List Char) : List Char → Option (List Char × List Char)
  | [] => none
  | c :: rest =>
    if mark.isPrefixOf (c :: rest) then some ([], (c :: rest).drop mark.length)
    else (cutAt mark rest).map fun (before, after) => (c :: before, after)

/-- The set of a kind and a value. -/
def setOfKind? (kind value : List Char) : Option CharSet :=
  match looseName kind with
  | "gc" | "generalcategory" => categoryNamed? (looseName value)
  | "sc" | "script" => scriptNamed? (looseName value)
  | _ => none

/-- A set between braces: a name, or a kind, a sign and a value. -/
def setBetween? (cs : List Char) : Option CharSet :=
  match cutAt ['!', '='] cs with
  | some (kind, value) => (setOfKind? kind value).map .complement
  | none =>
    match (cutAt [':'] cs).or (cutAt ['='] cs) with
    | some (kind, value) => setOfKind? kind value
    | none => setNamed? (looseName cs)

end CasefileHub.Pattern
