import Walkthrough.Document.Scalar
import Walkthrough.Url.Parser

namespace Walkthrough.Document

/-- A text is never taken for a number, nor a number for a text, unless it is a scalar without
quotes, which is whatever is asked for. -/
abbrev Reader (α : Type) := Node → Option α

namespace Reader

def text : Reader String
  | .text s | .plain s => some s
  | _ => none

def bool : Reader Bool
  | .bool b => some b
  | .plain s => boolOfWord? s
  | _ => none

def whole : Reader Int
  | .whole n => some n
  | .plain s => wholeOfWord? s
  | _ => none

/-- A natural number up to `max`. -/
def nat (max : Nat) : Reader Nat := fun n =>
  (whole n).bind fun i => if 0 ≤ i && i ≤ (max : Int) then some i.toNat else none

def float : Reader Float
  | .float x => some x
  | .whole n => some (Float.ofInt n)
  | .plain s => floatOfWord? s
  | _ => none

def url : Reader Url := fun n =>
  (text n).bind fun s => (Url.parse s).toOption

def isNull : Node → Bool
  | .null => true
  | .plain s => isNullWord s
  | _ => false

/-- Nothing where there is a null. -/
def optional (read : Reader α) : Reader (Option α) := fun n =>
  if isNull n then some none else (read n).map some

def list (read : Reader α) : Reader (List α)
  | .list items | .sequence items => items.mapM read
  | .plain "" => some []
  | _ => none

end Reader

abbrev Fields := String → Option Node

namespace Fields

/-- Fields by name, none of them twice, or in order. A list may not be longer than the names, nor
shorter where `complete` says so. -/
def ofNode? (names : List String) (complete : Bool) : Reader Fields
  | .table entries =>
    if names.any fun name => 1 < entries.countP fun e => e.1 == name then none
    else some fun name => entries.lookup name
  | .list items =>
    if names.length < items.length || (complete && items.length < names.length) then none
    else some fun name => (names.zip items).lookup name
  | .plain "" => some fun _ => none
  | _ => none

/-- A field with a value for where it is missing. -/
def getD (f : Fields) (name : String) (read : Reader α) (missing : α) : Option α :=
  match f name with
  | none => some missing
  | some n => read n

def get? (f : Fields) (name : String) (read : Reader α) : Option α :=
  (f name).bind read

end Fields

end Walkthrough.Document
