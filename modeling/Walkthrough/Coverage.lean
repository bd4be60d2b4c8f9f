import Walkthrough.Command.Catalogue
import Walkthrough.Decimal.Rounding
import Walkthrough.Document.Node
import Walkthrough.StepFile

namespace Walkthrough

structure CoverageEntry where
  number : Nat
  text : String
  known : Bool
  deriving Repr, DecidableEq

abbrev Coverage := List CoverageEntry

namespace Coverage

def ofSteps (catalogue : Catalogue) (steps : List Step) : Coverage :=
  steps.map fun s => ⟨s.number, s.text, catalogue.knows s.text⟩

def knownCount (c : Coverage) : Nat :=
  c.countP (·.known)

def unknown (c : Coverage) : List CoverageEntry :=
  c.filter (!·.known)

/-- The share of known steps in percent; zero where there are no steps. -/
def percent (c : Coverage) : Float :=
  if c.isEmpty then 0.0 else Float.ofNat c.knownCount * 100.0 / Float.ofNat c.length

def entryLine (e : CoverageEntry) : String :=
  Text.padLeft 3 (toString e.number) ++ ". " ++ (if e.known then "✅" else "❌") ++ " " ++ e.text

def unknownLine (e : CoverageEntry) : String :=
  "Line " ++ toString e.number ++ ": \"" ++ e.text ++ "\""

def unknownSection (c : Coverage) : List String :=
  if c.unknown.isEmpty then []
  else "" :: "=== UNKNOWN STEPS TO IMPLEMENT ===" :: c.unknown.map unknownLine

def reportLines (c : Coverage) : List String :=
  "=== NORMALIZED STEPS LIST ===" :: c.map entryLine ++
    ["", "=== SUMMARY ===",
      "Total steps: " ++ toString c.length,
      "Known (✅): " ++ toString c.knownCount,
      "Unknown (❌): " ++ toString (c.length - c.knownCount),
      "Coverage: " ++ Decimal.fixedText 1 c.percent ++ "%"] ++
    c.unknownSection

def render (c : Coverage) : String :=
  String.join (c.reportLines.map (· ++ "\n"))

def toNode (c : Coverage) : Node :=
  .table [("entries", .list (c.map fun e =>
    .table [("number", .whole e.number), ("text", .text e.text), ("known", .bool e.known)]))]

end Coverage

end Walkthrough
