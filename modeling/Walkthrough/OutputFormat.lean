import Walkthrough.Coverage
import Walkthrough.Document.Json
import Walkthrough.Document.Yaml.Printer
import Walkthrough.Walk.Digest

namespace Walkthrough

open Document

inductive OutputFormat
  | human
  | json
  | yaml
  deriving Repr, DecidableEq

namespace OutputFormat

def name : OutputFormat → String
  | human => "human"
  | json => "json"
  | yaml => "yaml"

def all : List OutputFormat :=
  [human, json, yaml]

def ofName? (s : String) : Option OutputFormat :=
  all.find? fun f => f.name == s

/-- The text of a document, in a format that is meant for documents. -/
def documentText? : OutputFormat → Node → Option String
  | human, _ => none
  | json, n => some (Json.text n)
  | yaml, n => some (Yaml.text n)

/-- What is said where a document is asked for in no such format. -/
def notStructured : String :=
  "human output is not structured"

def reportText (f : OutputFormat) (r : Report) : String :=
  (f.documentText? r.toNode).getD r.digest

end OutputFormat

def Step.toNode (s : Step) : Node :=
  .table [("number", .whole s.number), ("text", .text s.text), ("source_line", .whole s.sourceLine)]

def Step.ofNode? : Reader Step := fun n => do
  let f ← Fields.ofNode? ["number", "text", "source_line"] true n
  return {
    number := ← f.get? "number" (.nat Text.maxU64)
    text := ← f.get? "text" .text
    sourceLine := ← f.get? "source_line" (.nat Text.maxU64) }

def Step.listNode (steps : List Step) : Node :=
  .list (steps.map (·.toNode))

end Walkthrough
