import Walkthrough.Decimal.Reader
import Walkthrough.Document.Node

namespace Walkthrough.Document

def isNullWord (s : String) : Bool :=
  ["", "~", "null", "Null", "NULL"].contains s

def boolOfWord? (s : String) : Option Bool :=
  if ["true", "True", "TRUE"].contains s then some true
  else if ["false", "False", "FALSE"].contains s then some false
  else none

def withoutSign (cs : List Char) : List Char :=
  match cs with
  | '-' :: rest | '+' :: rest => rest
  | _ => cs

/-- Digits that start with a zero but are more than that. -/
def isPaddedDigits (s : String) : Bool :=
  match withoutSign s.toList with
  | '0' :: c :: rest => (c :: rest).all Char.isDigit
  | _ => false

/-- Digits in base ten, or in another base after `0x`, `0o` or `0b`. -/
def magnitudeOfChars? (cs : List Char) : Option Nat :=
  match cs with
  | '0' :: 'x' :: rest => Text.digitsValue? 16 rest
  | '0' :: 'o' :: rest => Text.digitsValue? 8 rest
  | '0' :: 'b' :: rest => Text.digitsValue? 2 rest
  | _ => if isPaddedDigits (String.ofList cs) then none else Text.digitsValue? 10 cs

def wholeOfWord? (s : String) : Option Int :=
  match s.toList with
  | '-' :: rest => (magnitudeOfChars? rest).map fun n => -(n : Int)
  | '+' :: rest => (magnitudeOfChars? rest).map fun n => (n : Int)
  | cs => (magnitudeOfChars? cs).map fun n => (n : Int)

def floatOfWord? (s : String) : Option Float :=
  if [".inf", ".Inf", ".INF", "+.inf", "+.Inf", "+.INF"].contains s then some (1.0 / 0.0)
  else if ["-.inf", "-.Inf", "-.INF"].contains s then some (-(1.0 / 0.0))
  else if [".nan", ".NaN", ".NAN"].contains s then some (0.0 / 0.0)
  else (Decimal.float? s).filter Float.isFinite

/-- The smallest and the largest whole number that a document can hold as such. -/
def wholeInRange (n : Int) : Bool :=
  -(Nat.pow 2 63 : Int) ≤ n && n < (Nat.pow 2 64 : Int)

/-- An unquoted scalar where any type will do; whole numbers out of range have no value. -/
def resolvePlain (s : String) : Option Node :=
  if isNullWord s then some .null
  else match boolOfWord? s with
  | some b => some (.bool b)
  | none =>
    match wholeOfWord? s with
    | some n =>
      if wholeInRange n then some (.whole n)
      else if n < (Nat.pow 2 128 : Int) && -(Nat.pow 2 127 : Int) ≤ n then none
      else (floatOfWord? s).map .float
    | none =>
      if isPaddedDigits s then some (.text s)
      else match floatOfWord? s with
      | some x => if x.isFinite then some (.float x) else some .null
      | none => some (.text s)

mutual

/-- The same document with a definite type for each scalar. -/
def resolve : Node → Option Node
  | .plain s => resolvePlain s
  | .list items | .sequence items => (resolveItems items).map .list
  | .table fields => (resolveFields fields).map .table
  | n => some n

def resolveItems : List Node → Option (List Node)
  | [] => some []
  | n :: rest => do
    let n ← resolve n
    let rest ← resolveItems rest
    return n :: rest

def resolveFields : List (String × Node) → Option (List (String × Node))
  | [] => some []
  | (key, n) :: rest => do
    let n ← resolve n
    let rest ← resolveFields rest
    return if (rest.lookup key).isSome then rest else (key, n) :: rest

end

end Walkthrough.Document
