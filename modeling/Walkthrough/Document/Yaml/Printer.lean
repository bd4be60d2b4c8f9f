import Walkthrough.Decimal.Rounding
import Walkthrough.Document.Scalar
import Walkthrough.Text.Quoted

namespace Walkthrough.Document.Yaml

inductive ScalarStyle
  | plain
  | single
  | double
  /-- A block of lines. -/
  | literal
  deriving Repr, DecidableEq

def isBreak (c : Char) : Bool :=
  c == '\n' || c == '\r' || c == '\x85' || c == '\u2028' || c == '\u2029'

/-- Whether a character may stand outside double quotes. -/
def isPlainChar (c : Char) : Bool :=
  let n := c.toNat
  n == 0xa || (0x20 ≤ n && n ≤ 0x7e) || (0xa0 ≤ n && n ≤ 0xfffd && n != 0xfeff) || 0x10000 ≤ n

def atBlankOrEnd : List Char → Bool
  | [] => true
  | c :: _ => c == ' ' || c == '\t' || c == '\x00' || isBreak c

/-- A first character that has a meaning of its own. -/
def startsMarked : List Char → Bool
  | [] => false
  | c :: rest =>
    ['#', ',', '[', ']', '\x7b', '\x7d', '&', '*', '!', '|', '>', '\'', '"', '%', '@', '\x60'].contains c ||
      ((c == '?' || c == ':' || c == '-') && atBlankOrEnd rest) ||
      ['-', '-', '-'].isPrefixOf (c :: rest) || ['.', '.', '.'].isPrefixOf (c :: rest)

/-- A colon before a blank, or a hash sign after one. -/
def hasMark (afterBlank : Bool) : List Char → Bool
  | [] => false
  | c :: rest =>
    (c == ':' && atBlankOrEnd rest) || (c == '#' && afterBlank) ||
      hasMark (atBlankOrEnd [c]) rest

def hasPair (p q : Char → Bool) : List Char → Bool
  | a :: b :: rest => (p a && q b) || hasPair p q (b :: rest)
  | _ => false

/-- Whether a text without quotes would be read as no text. -/
def denotesOther (s : String) : Bool :=
  isNullWord s || (boolOfWord? s).isSome || (wholeOfWord? s).isSome || isPaddedDigits s ||
    (floatOfWord? s).isSome

def styleOf (s : String) : ScalarStyle :=
  let cs := s.toList
  let isSpace (c : Char) := c == ' '
  let edgeBlank (c : Option Char) := c.any fun c => isSpace c || isBreak c
  if cs.any (fun c => !isPlainChar c) || hasPair isSpace isBreak cs then .double
  else if cs.contains '\n' then if cs.getLast? == some ' ' then .double else .literal
  else if hasPair isBreak isSpace cs then .double
  else if denotesOther s || edgeBlank cs.head? || edgeBlank cs.getLast? || cs.any isBreak ||
      startsMarked cs || hasMark true cs then .single
  else .plain

def upperHex (width n : Nat) : String :=
  let digits := Text.hexDigits n
  String.ofList (List.replicate (width - digits.length) '0') ++ digits.map Char.toUpper

/-- A character as it stands between double quotes. -/
def doubleChar (c : Char) : String :=
  match c with
  | '"' => "\\\""
  | '\\' => "\\\\"
  | '\x00' => "\\0"
  | '\x07' => "\\a"
  | '\x08' => "\\b"
  | '\t' => "\\t"
  | '\n' => "\\n"
  | '\x0b' => "\\v"
  | '\x0c' => "\\f"
  | '\r' => "\\r"
  | '\x1b' => "\\e"
  | '\x85' => "\\N"
  | '\u2028' => "\\L"
  | '\u2029' => "\\P"
  | _ =>
    if isPlainChar c then c.toString
    else if c.toNat ≤ 0xff then "\\x" ++ upperHex 2 c.toNat
    else if c.toNat ≤ 0xffff then "\\u" ++ upperHex 4 c.toNat
    else "\\U" ++ upperHex 8 c.toNat

def doubleQuoted (s : String) : String :=
  "\"" ++ String.join (s.toList.map doubleChar) ++ "\""

def singleChar (c : Char) : String :=
  if c == '\'' then "''" else c.toString

def singleQuoted (s : String) : String :=
  "'" ++ String.join (s.toList.map singleChar) ++ "'"

/-- What a block of lines begins with: an indentation, if its text begins with a blank or a line
end, and what becomes of the line ends at its end. -/
def blockHeader (cs : List Char) : String :=
  let step := if cs.head?.any fun c => c == ' ' || c == '\n' then "2" else ""
  let chomp := match cs.reverse with
    | '\n' :: '\n' :: _ | ['\n'] => "+"
    | '\n' :: _ => ""
    | _ => "-"
  "|" ++ step ++ chomp

def indented (indent : Nat) (atStart : Bool) : List Char → String
  | [] => ""
  | c :: rest =>
    if c == '\n' then "\n" ++ indented indent true rest
    else (if atStart then Text.spaces indent else "") ++ c.toString ++ indented indent false rest

def scalarLine (indent : Nat) (s : String) : String :=
  match styleOf s with
  | .plain => s ++ "\n"
  | .single => singleQuoted s ++ "\n"
  | .double => doubleQuoted s ++ "\n"
  | .literal =>
    let body := indented indent true s.toList
    blockHeader s.toList ++ "\n" ++ (if s.endsWith "\n" then body else body ++ "\n")

def keyText (s : String) : String :=
  match styleOf s with
  | .plain => s
  | .single => singleQuoted s
  | .double | .literal => doubleQuoted s

mutual

/-- What follows the mark of an item or of a field in column `indent`: the rest of the line and
further lines. -/
def entryText (indent : Nat) (inList : Bool) : Node → String
  | .null => " null\n"
  | .bool b => if b then " true\n" else " false\n"
  | .whole n => " " ++ toString n ++ "\n"
  | .float x => " " ++ Decimal.shortestText x ++ "\n"
  | .text s => " " ++ scalarLine (indent + 2) s
  | .plain s => " " ++ s ++ "\n"
  | .list [] | .sequence [] => " []\n"
  | .list items | .sequence items =>
    if inList then " " ++ itemsText (indent + 2) true items else "\n" ++ itemsText indent false items
  | .table [] => " \x7b\x7d\n"
  | .table fields =>
    if inList then " " ++ fieldsText (indent + 2) true fields
    else "\n" ++ fieldsText (indent + 2) false fields

/-- Items in column `indent`, in which the text may stand already. -/
def itemsText (indent : Nat) (placed : Bool) : List Node → String
  | [] => ""
  | n :: rest =>
    (if placed then "" else Text.spaces indent) ++ "-" ++ entryText indent true n ++
      itemsText indent false rest

def fieldsText (indent : Nat) (placed : Bool) : List (String × Node) → String
  | [] => ""
  | (key, n) :: rest =>
    (if placed then "" else Text.spaces indent) ++ keyText key ++ ":" ++ entryText indent false n ++
      fieldsText indent false rest

end

def text : Node → String
  | .list [] | .sequence [] => "[]\n"
  | .list items | .sequence items => itemsText 0 false items
  | .table [] => "\x7b\x7d\n"
  | .table fields => fieldsText 0 false fields
  | .text s => scalarLine 2 s
  | .null => "null\n"
  | .bool b => if b then "true\n" else "false\n"
  | .whole n => toString n ++ "\n"
  | .float x => Decimal.shortestText x ++ "\n"
  | .plain s => s ++ "\n"

end Walkthrough.Document.Yaml
