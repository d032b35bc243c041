import CasefileHub.Text.Run
import CasefileHub.Text.ScriptRuns
/-!
# Scripts

Each code point belongs to one script, written with four letters (`Grek`); `Zyyy` is common to
scripts, `Zinh` takes the script of the character before it and `Zzzz` is none.
-/

namespace CasefileHub.Text

def scriptTable : Array Run := readRuns 4 scriptRuns

def script (c : Char) : String := labelAt scriptTable c

/-- The script with a name in lower case, without blanks, hyphens and underscores. -/
def scriptNamed? (name : String) : Option String := scriptNames.lookup name

end CasefileHub.Text
