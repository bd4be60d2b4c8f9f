import Walkthrough.Walk.Report

namespace Walkthrough

def StepStatus.mark : StepStatus → String
  | passed => "✅"
  | warned => "⚠️"
  | acknowledged => "ℹ️"
  | heading => "§"
  | unknown => "❓"
  | failed => "❌"
  | skipped => "⏭"

namespace StepRecord

def headline (r : StepRecord) : String :=
  Text.padLeft 3 (toString r.number) ++ ". " ++ r.status.mark ++ " " ++
    Text.padRight 12 r.status.name ++ " " ++ r.line

def digestLines (r : StepRecord) : List String :=
  if r.message.isEmpty || r.status == .heading then [r.headline]
  else [r.headline, Text.spaces 7 ++ r.message]

end StepRecord

def StatusCounts.digestLine (c : StatusCounts) : String :=
  "  ".intercalate [
    "passed " ++ toString c.passed, "warned " ++ toString c.warned,
    "acknowledged " ++ toString c.acknowledged, "section " ++ toString c.heading,
    "unknown " ++ toString c.unknown, "failed " ++ toString c.failed,
    "skipped " ++ toString c.skipped]

namespace Report

def failureLine (r : StepRecord) : String :=
  "  " ++ toString r.number ++ ": " ++ r.line ++ " (" ++ r.message ++ ")"

def failureLines (r : Report) : List String :=
  if r.failures.isEmpty then [] else "Failed steps:" :: r.failures.map failureLine

def digestLines (r : Report) : List String :=
  ("Run: " ++ r.source ++ " (" ++ toString r.counts.total ++ " steps, " ++ toString r.duration ++
      " ms)") ::
    r.steps.flatMap (·.digestLines) ++ ["", r.counts.digestLine] ++ r.failureLines

def digest (r : Report) : String :=
  String.join (r.digestLines.map (· ++ "\n"))

end Report

end Walkthrough
