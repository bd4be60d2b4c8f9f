import Walkthrough.Pattern.Parser
import Walkthrough.Phrasing.ListMarker
import Walkthrough.Phrasing.Template

namespace Walkthrough

/-- Lines that match the pattern become the template with its slots filled. -/
structure Rephrasing where
  patternText : String
  pattern : Pattern
  template : String
  deriving Repr, DecidableEq

def caseless (text : String) : String :=
  "(?i)" ++ text

namespace Rephrasing

def ofText (pattern template : String) : Except Pattern.Fault Rephrasing :=
  (Pattern.parse (caseless pattern)).map fun p => ⟨caseless pattern, p, template⟩

def rephrase? (r : Rephrasing) (line : String) : Option String :=
  (r.pattern.find? line.toList).map fun m => Phrasing.expand r.template m.group?

end Rephrasing

/-- Rephrasings in order of precedence. -/
abbrev Phrasebook := List Rephrasing

namespace Phrasebook

/-- The first rephrasing that matches the line; a line that none matches stays. -/
def rephrase (book : Phrasebook) (line : String) : String :=
  (book.findSome? (·.rephrase? line)).getD line

def canonical (book : Phrasebook) (raw : String) : String :=
  book.rephrase (Phrasing.withoutMarker raw)

end Phrasebook

end Walkthrough
