import Walkthrough.Document.Yaml.Cursor
import Walkthrough.Text.Numeral

namespace Walkthrough.Document.Yaml

/-- Blanks and line ends that have been read but stand for nothing until more text follows: a line
end for a space and further empty lines for line feeds, while blanks about them are dropped. -/
inductive Pending
  | spaces (backwards : List Char)
  | breaks (count : Nat)
  /-- Line ends after the one that was escaped. -/
  | escaped (count : Nat)

namespace Pending

def none : Pending :=
  .spaces []

def isNone : Pending → Bool
  | .spaces s => s.isEmpty
  | _ => false

def crossesLine : Pending → Bool
  | .spaces _ => false
  | _ => true

def addSpace (c : Char) : Pending → Pending
  | .spaces s => .spaces (c :: s)
  | p => p

def addBreak : Pending → Pending
  | .spaces _ => .breaks 1
  | .breaks n => .breaks (n + 1)
  | .escaped n => .escaped (n + 1)

def chars : Pending → List Char
  | .spaces s => s
  | .breaks 1 => [' ']
  | .breaks n => List.replicate (n - 1) '\n'
  | .escaped n => List.replicate n '\n'

end Pending

def isFlowMark (c : Char) : Bool :=
  [',', '[', ']', '\x7b', '\x7d'].contains c

/-- Whether a scalar without quotes may begin here. -/
def startsPlain (flow : Bool) : List Char → Bool
  | [] => false
  | c :: rest =>
    let next := !atGap rest
    if c == '-' then next
    else if c == '?' || c == ':' then !flow && next
    else !isGap c &&
      !isFlowMark c && !(['#', '&', '*', '!', '|', '>', '\'', '"', '%', '@', '\x60'].contains c)

/-- A scalar without quotes, whose continuation lines have to be in column `indent` at least. -/
def plainFrom (flow : Bool) (indent : Nat) (back : List Char) (pending : Pending)
    (line column : Nat) : List Char → Option (String × Cursor)
  | [] => some (String.ofList back.reverse, ⟨[], line, column⟩)
  | c :: rest =>
    let here : Cursor := ⟨c :: rest, line, column⟩
    if c == '\n' then plainFrom flow indent back pending.addBreak (line + 1) 0 rest
    else if isSpace c then
      if c == '\t' && pending.crossesLine && column < indent then none
      else plainFrom flow indent back (pending.addSpace c) line (column + 1) rest
    else if (c == '#' && !pending.isNone) ||
        (pending.crossesLine && ((!flow && column < indent) || here.isDivider)) ||
        (c == ':' && atGap rest) || (flow && isFlowMark c) then
      some (String.ofList back.reverse, here)
    else if flow && c == ':' && rest.head?.any fun d => isFlowMark d || d == '?' then none
    else plainFrom flow indent (c :: (pending.chars ++ back)) .none line (column + 1) rest

def plain (flow : Bool) (indent : Nat) (c : Cursor) : Option (String × Cursor) :=
  plainFrom flow indent [] .none c.line c.column c.rest

/-- A scalar in single quotes, after the first of them; a quote within is written twice. -/
def singleFrom (back : List Char) (pending : Pending) (line column : Nat) :
    List Char → Option (String × Cursor)
  | [] => none
  | '\'' :: '\'' :: rest =>
    singleFrom ('\'' :: (pending.chars ++ back)) .none line (column + 2) rest
  | '\'' :: rest => some (String.ofList (pending.chars ++ back).reverse, ⟨rest, line, column + 1⟩)
  | c :: rest =>
    if (⟨c :: rest, line, column⟩ : Cursor).isDivider then none
    else if c == '\n' then singleFrom back pending.addBreak (line + 1) 0 rest
    else if isSpace c then singleFrom back (pending.addSpace c) line (column + 1) rest
    else singleFrom (c :: (pending.chars ++ back)) .none line (column + 1) rest

/-- What a backslash and one character stand for. -/
def escapes : List (Char × Char) :=
  [('0', '\x00'), ('a', '\x07'), ('b', '\x08'), ('t', '\t'), ('\t', '\t'), ('n', '\n'),
   ('v', '\x0b'), ('f', '\x0c'), ('r', '\r'), ('e', '\x1b'), (' ', ' '), ('"', '"'), ('/', '/'),
   ('\\', '\\'), ('N', '\u0085'), ('_', '\u00a0'), ('L', '\u2028'), ('P', '\u2029')]

/-- The character with a number in hexadecimal digits. -/
def charOfHex? (digits : List Char) : Option Char :=
  (Text.digitsValue? 16 digits).bind fun n =>
    if n < 0xd800 || (0xdfff < n && n < 0x110000) then some (Char.ofNat n) else none

/-- A scalar in double quotes, after the first of them. -/
def doubleFrom (back : List Char) (pending : Pending) (line column : Nat) :
    List Char → Option (String × Cursor)
  | [] => none
  | '"' :: rest => some (String.ofList (pending.chars ++ back).reverse, ⟨rest, line, column + 1⟩)
  | '\\' :: '\n' :: rest => doubleFrom (pending.chars ++ back) (.escaped 0) (line + 1) 0 rest
  | '\\' :: 'x' :: a :: b :: rest =>
    (charOfHex? [a, b]).bind fun c =>
      doubleFrom (c :: (pending.chars ++ back)) .none line (column + 4) rest
  | '\\' :: 'u' :: a :: b :: c :: d :: rest =>
    (charOfHex? [a, b, c, d]).bind fun c =>
      doubleFrom (c :: (pending.chars ++ back)) .none line (column + 6) rest
  | '\\' :: 'U' :: a :: b :: c :: d :: e :: f :: g :: h :: rest =>
    (charOfHex? [a, b, c, d, e, f, g, h]).bind fun c =>
      doubleFrom (c :: (pending.chars ++ back)) .none line (column + 10) rest
  | '\\' :: c :: rest =>
    (escapes.lookup c).bind fun c =>
      doubleFrom (c :: (pending.chars ++ back)) .none line (column + 2) rest
  | c :: rest =>
    if (⟨c :: rest, line, column⟩ : Cursor).isDivider then none
    else if c == '\n' then doubleFrom back pending.addBreak (line + 1) 0 rest
    else if isSpace c then doubleFrom back (pending.addSpace c) line (column + 1) rest
    else doubleFrom (c :: (pending.chars ++ back)) .none line (column + 1) rest

/-- What becomes of the line ends at the end of a block. -/
inductive Chomp
  | clip
  | strip
  | keep

structure BlockHeader where
  /-- Line ends between lines of text stand for spaces. -/
  folded : Bool
  chomp : Chomp
  /-- How far the block is indented beyond its parent, where the header tells. -/
  step : Option Nat

def chompOfChar? (c : Char) : Option Chomp :=
  if c == '-' then some .strip else if c == '+' then some .keep else none

def stepOfChar? (c : Char) : Option Nat :=
  (Text.digitValue? 10 c).filter (0 < ·)

/-- A header without its first character: signs in either order, then at most a comment. -/
def BlockHeader.ofChars? (folded : Bool) (cs : List Char) : Option BlockHeader :=
  let (signs, after) := cs.span fun c => !isSpace c && c != '#'
  let after := after.dropWhile isSpace
  if !after.isEmpty && after.head? != some '#' then none
  else match signs with
  | [] => some ⟨folded, .clip, none⟩
  | [a] =>
    match chompOfChar? a with
    | some chomp => some ⟨folded, chomp, none⟩
    | none => (stepOfChar? a).map fun n => ⟨folded, .clip, some n⟩
  | [a, b] =>
    match chompOfChar? a with
    | some chomp => (stepOfChar? b).map fun n => ⟨folded, chomp, some n⟩
    | none => do return ⟨folded, ← chompOfChar? b, some (← stepOfChar? a)⟩
  | _ => none

/-- The lines of a text; the last of them has no line end. -/
def splitLines (back : List Char) : List Char → List (List Char)
  | [] => [back.reverse]
  | c :: rest => if c == '\n' then back.reverse :: splitLines [] rest else splitLines (c :: back) rest

def joinLines : List (List Char) → List Char
  | [] => []
  | [last] => last
  | line :: rest => line ++ '\n' :: joinLines rest

def spacesBefore (line : List Char) : Nat :=
  (line.takeWhile (· == ' ')).length

/-- The indentation of the first line with text, or of a deeper empty one before it. -/
def indentOfLines? : List (List Char) → Option Nat
  | [] => some 0
  | line :: rest =>
    let n := spacesBefore line
    match line.drop n with
    | [] => (indentOfLines? rest).map (max n ·)
    | c :: _ => if c == '\t' then none else some n

/-- The text of a block as it grows: what is settled, backwards; whether the last line has ended;
how many empty lines came after it; and whether it began with a blank. -/
structure Block where
  back : List Char
  ended : Bool
  empty : Nat
  spaced : Bool

namespace Block

def start : Block :=
  ⟨[], false, 0, false⟩

/-- Adds a line that holds text beyond the indentation. -/
def addLine (folded : Bool) (line : List Char) (ended : Bool) (b : Block) : Block :=
  let spaced := line.head?.any isSpace
  let joint :=
    if folded && b.ended && !b.spaced && !spaced then if b.empty == 0 then [' '] else []
    else if b.ended then ['\n'] else []
  ⟨line.reverse ++ (List.replicate b.empty '\n' ++ joint ++ b.back), ended, 0, spaced⟩

def text (chomp : Chomp) (b : Block) : String :=
  let ending := if b.ended then ['\n'] else []
  let empty := List.replicate b.empty '\n'
  String.ofList (match chomp with
    | .strip => b.back
    | .clip => ending ++ b.back
    | .keep => empty ++ ending ++ b.back).reverse

/-- Reads the lines of a block; what is left begins with the first line of less indentation. -/
def readLines (folded : Bool) (indent : Nat) (b : Block) (line : Nat) :
    List (List Char) → Option (Block × Cursor)
  | [] => some (b, ⟨[], line, 0⟩)
  | l :: rest =>
    let n := min indent (spacesBefore l)
    match l.drop n with
    | [] =>
      if rest.isEmpty then some (b, ⟨[], line, n⟩)
      else readLines folded indent { b with empty := b.empty + 1 } (line + 1) rest
    | c :: text =>
      if n < indent then
        if c == '\t' then none else some (b, ⟨joinLines (l :: rest), line, 0⟩)
      else readLines folded indent (b.addLine folded (c :: text) (!rest.isEmpty)) (line + 1) rest

end Block

/-- A block of lines, whose parent is indented by less than `indent`. -/
def block (folded : Bool) (indent : Nat) (c : Cursor) : Option (String × Cursor) :=
  match splitLines [] (c.rest.drop 1) with
  | [] => none
  | first :: lines => do
    let header ← BlockHeader.ofChars? folded first
    let depth ← match header.step with
      | some n => some (indent - 1 + n)
      | none => (indentOfLines? lines).map fun n => max n (max indent 1)
    let (b, after) ← Block.readLines folded depth Block.start (c.line + 1) lines
    return (b.text header.chomp, after)

end Walkthrough.Document.Yaml
