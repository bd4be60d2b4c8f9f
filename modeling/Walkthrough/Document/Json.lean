import Walkthrough.Decimal.Rounding
import Walkthrough.Document.Node
import Walkthrough.Text.Numeral
import Walkthrough.Text.Quoted

namespace Walkthrough.Document.Json

/-- Controls, quotes and backslashes are escaped, all else is written as it is. -/
def escapedChar (c : Char) : String :=
  match c with
  | '"' => "\\\""
  | '\\' => "\\\\"
  | '\n' => "\\n"
  | '\r' => "\\r"
  | '\t' => "\\t"
  | '\x08' => "\\b"
  | '\x0c' => "\\f"
  | _ =>
    if c.toNat < 32 then
      "\\u" ++ String.ofList (List.replicate (4 - (Text.hexDigits c.toNat).length) '0') ++
        Text.hexDigits c.toNat
    else c.toString

def textLiteral (s : String) : String :=
  "\"" ++ String.join (s.toList.map escapedChar) ++ "\""

def newline (depth : Nat) : String :=
  "\n" ++ Text.spaces (2 * depth)

mutual

/-- The text of a node whose lines are indented by `depth` steps. -/
def textAt (depth : Nat) : Node → String
  | .null => "null"
  | .bool b => if b then "true" else "false"
  | .whole n => toString n
  | .float x => if x.isFinite then Decimal.shortestText x else "null"
  | .text s | .plain s => textLiteral s
  | .list [] | .sequence [] => "[]"
  | .list (n :: rest) | .sequence (n :: rest) =>
    "[" ++ newline (depth + 1) ++ textAt (depth + 1) n ++ itemsAt (depth + 1) rest ++
      newline depth ++ "]"
  | .table [] => "\x7b\x7d"
  | .table (field :: rest) =>
    "\x7b" ++ newline (depth + 1) ++ fieldAt (depth + 1) field ++ fieldsAt (depth + 1) rest ++
      newline depth ++ "\x7d"

def itemsAt (depth : Nat) : List Node → String
  | [] => ""
  | n :: rest => "," ++ newline depth ++ textAt depth n ++ itemsAt depth rest

def fieldAt (depth : Nat) : String × Node → String
  | (key, n) => textLiteral key ++ ": " ++ textAt depth n

def fieldsAt (depth : Nat) : List (String × Node) → String
  | [] => ""
  | field :: rest => "," ++ newline depth ++ fieldAt depth field ++ fieldsAt depth rest

end

def text (n : Node) : String :=
  textAt 0 n

end Walkthrough.Document.Json
