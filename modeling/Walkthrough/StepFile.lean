import Walkthrough.Phrasing.Rephrasing
import Walkthrough.Text.Lines
import Walkthrough.Text.Lowercase
import Walkthrough.Text.Search

namespace Walkthrough

/-- A line of a step file that says something, with the number of that line. -/
structure Instruction where
  sourceLine : Nat
  text : String
  deriving Repr, DecidableEq

/-- A step in canonical wording, numbered from one. -/
structure Step where
  number : Nat
  text : String
  sourceLine : Nat
  deriving Repr, DecidableEq

structure Scope where
  first : Option Nat
  last : Option Nat
  keyword : Option String
  deriving Repr, DecidableEq

namespace Scope

def everything : Scope :=
  ⟨none, none, none⟩

def range (first last : Nat) : Scope :=
  ⟨some first, some last, none⟩

def matching (keyword : String) : Scope :=
  ⟨none, none, some keyword⟩

def isRestricted (s : Scope) : Bool :=
  s.first.isSome || s.last.isSome || s.keyword.isSome

/-- The steps from `first` to `last`, counted from one. -/
def slice (s : Scope) (steps : List Step) : List Step :=
  if s.first.isSome || s.last.isSome then
    (steps.take (s.last.getD steps.length)).drop (s.first.getD 1 - 1)
  else steps

/-- The steps whose text holds the keyword, in any case. -/
def search (s : Scope) (steps : List Step) : List Step :=
  match s.keyword with
  | none => steps
  | some keyword =>
    if keyword.isEmpty then steps
    else
      let wanted := Text.lowercase keyword
      steps.filter fun step => Text.contains (Text.lowercase step.text) wanted

def select (s : Scope) (steps : List Step) : List Step :=
  s.search (s.slice steps)

end Scope

namespace StepFile

def withoutMark (text : String) : String :=
  match text.toList with
  | '\ufeff' :: rest => String.ofList rest
  | _ => text

def saysSomething (i : Instruction) : Bool :=
  match i.text.toList with
  | [] => false
  | c :: _ => c != '#'

def instructions (text : String) : List Instruction :=
  ((Text.lines (withoutMark text)).zipIdx 1).map (fun (line, n) => Instruction.mk n (Text.trim line))
    |>.filter saysSomething

/-- All steps of a text; a line that comes down to nothing is dropped. -/
def steps (book : Phrasebook) (text : String) : List Step :=
  let worded := (instructions text).map fun i => (i.sourceLine, book.canonical i.text)
  ((worded.filter fun w => !w.2.isEmpty).zipIdx 1).map fun (w, n) => Step.mk n w.2 w.1

def load (book : Phrasebook) (scope : Scope) (text : String) : List Step :=
  scope.select (steps book text)

end StepFile

end Walkthrough
