import Walkthrough.Page.Selector.Basic
import Walkthrough.Text.Alphabetic
import Walkthrough.Text.Blank

namespace Walkthrough.Selector

inductive Problem
  | trailing
  | character
  | emptyCompound
  | pseudoClass
  | comparison
  | stringEnd
  | name
  | missing (c : Char)
  deriving Repr, DecidableEq

def Problem.text : Problem → String
  | trailing => "unexpected trailing input"
  | character => "unexpected character"
  | emptyCompound => "empty selector"
  | pseudoClass => "unsupported pseudo-class"
  | comparison => "expected attribute operator"
  | stringEnd => "unterminated string"
  | name => "expected identifier"
  | missing c => "expected `" ++ c.toString ++ "`"

/-- A fault tells how many characters were left, and so where it was found. -/
structure Fault where
  problem : Problem
  /-- How many characters were left. -/
  left : Nat
  deriving Repr, DecidableEq

def Fault.message (f : Fault) (source : String) : String :=
  f.problem.text ++ " at " ++ toString (source.length - f.left) ++ " in `" ++ source ++ "`"

/-- A reader of part of a selector: what it has read, and the rest. -/
abbrev Reader (α : Type) := List Char → Except Fault (α × List Char)

def isNameChar (c : Char) : Bool :=
  Text.isAlphanumeric c || c == '-' || c == '_'

def readName : Reader String := fun cs =>
  match cs.span isNameChar with
  | ([], rest) => .error ⟨.name, rest.length⟩
  | (name, rest) => .ok (String.ofList name, rest)

def after (c : Char) : List Char → Except Fault (List Char)
  | [] => .error ⟨.missing c, 0⟩
  | d :: rest => if d == c then .ok rest else .error ⟨.missing c, rest.length⟩

/-- The text up to the closing quote; a backslash stands for the character after it. -/
def readQuoted (quote : Char) : Reader String
  | [] => .error ⟨.stringEnd, 0⟩
  | '\\' :: c :: rest => (readQuoted quote rest).map fun (s, after) => (c.toString ++ s, after)
  | c :: rest =>
    if c == quote then .ok ("", rest)
    else (readQuoted quote rest).map fun (s, after) => (c.toString ++ s, after)

def readValue : Reader String
  | '"' :: rest => readQuoted '"' rest
  | '\'' :: rest => readQuoted '\'' rest
  | cs => readName cs

/-- The operator of a test; nothing but the closing bracket asks for the attribute alone. -/
def readComparison : Reader Comparison
  | ']' :: rest => .ok (.present, rest)
  | '=' :: rest => .ok (.equal, rest)
  | '*' :: rest => (after '=' rest).map (.containing, ·)
  | '~' :: rest => (after '=' rest).map (.word, ·)
  | '^' :: rest => (after '=' rest).map (.starting, ·)
  | '$' :: rest => (after '=' rest).map (.ending, ·)
  | cs => .error ⟨.comparison, cs.length - 1⟩

def readCaseFlag (cs : List Char) : Bool × List Char :=
  match cs with
  | 'i' :: rest | 'I' :: rest => (true, Text.dropBlanks rest)
  | _ => (false, cs)

def readAttribute : Reader AttributeTest := fun cs => do
  let (name, cs) ← readName (Text.dropBlanks cs)
  let key := Text.lowercase name
  let (comparison, cs) ← readComparison (Text.dropBlanks cs)
  if comparison == .present then return (⟨key, .present, "", false⟩, cs)
  let (value, cs) ← readValue (Text.dropBlanks cs)
  let (anyCase, cs) := readCaseFlag (Text.dropBlanks cs)
  let cs ← after ']' cs
  return (⟨key, comparison, value, anyCase⟩, cs)

namespace Compound

def addId (id : String) : Compound → Compound
  | tests tag _ classes attributes excluded => tests tag (some id) classes attributes excluded

def addClass (name : String) : Compound → Compound
  | tests tag id classes attributes excluded => tests tag id (classes ++ [name]) attributes excluded

def addAttribute (t : AttributeTest) : Compound → Compound
  | tests tag id classes attributes excluded => tests tag id classes (attributes ++ [t]) excluded

def addExcluded : Compound → Compound → Compound
  | tests tag id classes attributes excluded, c =>
    tests tag id classes attributes (excluded ++ [c])

end Compound

def readTag (cs : List Char) : Compound × List Char :=
  match cs with
  | '*' :: rest => (.tests (some "*") none [] [] [], rest)
  | _ =>
    match cs.span isNameChar with
    | ([], _) => (.tests none none [] [] [], cs)
    | (name, rest) => (.tests (some (Text.lowercase (String.ofList name))) none [] [] [], rest)

/-- Reads tests as long as they follow each other; each takes at least one character. -/
def readTests : Nat → Compound → Reader Compound
  | 0, _, cs => .error ⟨.emptyCompound, cs.length⟩
  | n + 1, c, cs => do
    match cs with
    | '#' :: rest =>
      let (id, rest) ← readName rest
      readTests n (c.addId id) rest
    | '.' :: rest =>
      let (name, rest) ← readName rest
      readTests n (c.addClass name) rest
    | '[' :: rest =>
      let (t, rest) ← readAttribute rest
      readTests n (c.addAttribute t) rest
    | ':' :: rest =>
      let (name, rest) ← readName rest
      if Text.lowercase name != "not" then throw ⟨.pseudoClass, rest.length⟩
      let rest ← after '(' rest
      let (start, rest) := readTag (Text.dropBlanks rest)
      let (inner, rest) ← readTests n start rest
      let rest ← after ')' (Text.dropBlanks rest)
      readTests n (c.addExcluded inner) rest
    | _ => if c.isEmpty then throw ⟨.emptyCompound, cs.length⟩ else return (c, cs)

def readCompound : Reader Compound := fun cs =>
  let (start, rest) := readTag cs
  readTests (cs.length + 1) start rest

def readLinks : Nat → Complex → Reader Complex
  | 0, left, cs => .ok (left, cs)
  | n + 1, left, cs => do
    let rest := Text.dropBlanks cs
    match rest with
    | [] | ',' :: _ | ')' :: _ => return (left, rest)
    | '>' :: inner =>
      let (c, inner) ← readCompound (Text.dropBlanks inner)
      readLinks n (.within left .child c) inner
    | _ :: _ =>
      if rest.length == cs.length then throw ⟨.character, rest.length⟩
      let (c, inner) ← readCompound rest
      readLinks n (.within left .descendant c) inner

def readComplex : Reader Complex := fun cs => do
  let (c, rest) ← readCompound (Text.dropBlanks cs)
  readLinks (cs.length + 1) (.one c) rest

def readAlternatives : Nat → Reader Selector
  | 0, cs => .ok ([], cs)
  | n + 1, cs => do
    let (c, rest) ← readComplex cs
    match rest with
    | ',' :: rest => (readAlternatives n rest).map fun (s, after) => (c :: s, after)
    | _ => return ([c], rest)

def parse (source : String) : Except Fault Selector := do
  let cs := source.toList
  let (s, rest) ← readAlternatives (cs.length + 1) cs
  if rest.isEmpty then return s else throw ⟨.trailing, rest.length⟩

end Walkthrough.Selector
