import Walkthrough.Timestamp
import Walkthrough.Walk.Run

namespace Walkthrough

open Document

structure StatusCounts where
  total : Nat
  passed : Nat
  warned : Nat
  acknowledged : Nat
  heading : Nat
  unknown : Nat
  failed : Nat
  skipped : Nat
  deriving Repr, DecidableEq

structure Report where
  source : String
  startedAt : Timestamp
  finishedAt : Option Timestamp
  steps : List StepRecord
  counts : StatusCounts
  deriving Repr, DecidableEq

namespace StatusCounts

def ofRecords (records : List StepRecord) : StatusCounts where
  total := records.length
  passed := records.countP (·.status == .passed)
  warned := records.countP (·.status == .warned)
  acknowledged := records.countP (·.status == .acknowledged)
  heading := records.countP (·.status == .heading)
  unknown := records.countP (·.status == .unknown)
  failed := records.countP (·.status == .failed)
  skipped := records.countP (·.status == .skipped)

def fieldNames : List String :=
  ["total", "passed", "warned", "acknowledged", "section", "unknown", "failed", "skipped"]

def ofNode? : Reader StatusCounts := fun n => do
  let f ← Fields.ofNode? fieldNames true n
  return {
    total := ← f.get? "total" (.nat Text.maxU64)
    passed := ← f.get? "passed" (.nat Text.maxU64)
    warned := ← f.get? "warned" (.nat Text.maxU64)
    acknowledged := ← f.get? "acknowledged" (.nat Text.maxU64)
    heading := ← f.get? "section" (.nat Text.maxU64)
    unknown := ← f.get? "unknown" (.nat Text.maxU64)
    failed := ← f.get? "failed" (.nat Text.maxU64)
    skipped := ← f.get? "skipped" (.nat Text.maxU64) }

def toNode (c : StatusCounts) : Node :=
  .table [("total", .whole c.total), ("passed", .whole c.passed), ("warned", .whole c.warned),
    ("acknowledged", .whole c.acknowledged), ("section", .whole c.heading),
    ("unknown", .whole c.unknown), ("failed", .whole c.failed), ("skipped", .whole c.skipped)]

end StatusCounts

namespace StepRecord

def statuses : List StepStatus :=
  [.passed, .warned, .acknowledged, .heading, .unknown, .failed, .skipped]

def statusOfNode? : Reader StepStatus := fun n =>
  (Reader.text n).bind fun s => statuses.find? (·.name == s)

def fieldNames : List String :=
  ["number", "line", "command", "status", "message", "latency_ms"]

def ofNode? : Reader StepRecord := fun n => do
  let f ← Fields.ofNode? fieldNames true n
  return {
    number := ← f.get? "number" (.nat Text.maxU64)
    line := ← f.get? "line" .text
    command := ← f.getD "command" (.optional .text) none
    status := ← f.get? "status" statusOfNode?
    message := ← f.get? "message" .text
    latency := ← f.get? "latency_ms" (.nat Text.maxU64) }

def toNode (r : StepRecord) : Node :=
  .table [("number", .whole r.number), ("line", .text r.line), ("command", ofText? r.command),
    ("status", .text r.status.name), ("message", .text r.message), ("latency_ms", .whole r.latency)]

end StepRecord

namespace Report

def failures (r : Report) : List StepRecord :=
  r.steps.filter (·.status == .failed)

/-- No step failed; steps that are unknown or were skipped do not count. -/
def isSuccess (r : Report) : Bool :=
  r.failures.isEmpty

def duration (r : Report) : Int :=
  match r.finishedAt with
  | none => 0
  | some finish => finish.millisecondsSince r.startedAt

def finished (source : String) (startedAt finishedAt : Timestamp) (steps : List StepRecord) : Report :=
  ⟨source, startedAt, some finishedAt, steps, StatusCounts.ofRecords steps⟩

def withCounts (r : Report) : Report :=
  { r with counts := StatusCounts.ofRecords r.steps }

def timestampOfNode? : Reader Timestamp := fun n =>
  (Reader.text n).bind Timestamp.parse?

def ofNode? : Reader Report := fun n => do
  let f ← Fields.ofNode? ["source", "started_at", "finished_at", "steps", "counts"] true n
  return {
    source := ← f.get? "source" .text
    startedAt := ← f.get? "started_at" timestampOfNode?
    finishedAt := ← f.getD "finished_at" (.optional timestampOfNode?) none
    steps := ← f.get? "steps" (.list StepRecord.ofNode?)
    counts := ← f.get? "counts" StatusCounts.ofNode? }

def toNode (r : Report) : Node :=
  .table [("source", .text r.source), ("started_at", .text r.startedAt.toText),
    ("finished_at", ofText? (r.finishedAt.map (·.toText))),
    ("steps", .list (r.steps.map (·.toNode))), ("counts", r.counts.toNode)]

end Report

end Walkthrough
