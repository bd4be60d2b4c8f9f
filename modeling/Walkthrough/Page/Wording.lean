import Walkthrough.Text.Blank
import Walkthrough.Text.Lowercase
import Walkthrough.Text.Search

namespace Walkthrough

inductive Wording
  | contains (needle : String)
  /-- At least one of the needles. -/
  | anyOf (needles : List String)
  deriving Repr, DecidableEq

namespace Wording

def raw : Wording → List String
  | contains needle => [needle]
  | anyOf needles => needles

/-- The needles as they are searched for: trimmed, in lower case, blank ones left out. -/
def needles (w : Wording) : List String :=
  (w.raw.map fun n => Text.lowercase (Text.trim n)).filter (!·.isEmpty)

def fits (w : Wording) (text : String) : Bool :=
  w.needles.any (Text.contains (Text.lowercase text))

def display : Wording → String
  | contains needle => "~\"" ++ needle ++ "\""
  | anyOf needles => "~/" ++ "|".intercalate needles ++ "/"

end Wording

end Walkthrough
