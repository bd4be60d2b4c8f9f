namespace Walkthrough.Document.Yaml

def isSpace (c : Char) : Bool :=
  c == ' ' || c == '\t'

def isGap (c : Char) : Bool :=
  isSpace c || c == '\n'

def atGap : List Char → Bool
  | [] => true
  | c :: _ => isGap c

/-- Characters that no text may hold unescaped. -/
def isAllowed (c : Char) : Bool :=
  let n := c.toNat
  n == 0x9 || n == 0xa || n == 0xd || (0x20 ≤ n && n ≤ 0x7e) || n == 0x85 ||
    (0xa0 ≤ n && n ≤ 0xfffd) || 0x10000 ≤ n

def withLineFeeds : List Char → List Char
  | '\r' :: '\n' :: rest => '\n' :: withLineFeeds rest
  | '\r' :: rest => '\n' :: withLineFeeds rest
  | '\x85' :: rest => '\n' :: withLineFeeds rest
  | c :: rest => c :: withLineFeeds rest
  | [] => []

/-- The text that is left, and the line and column it starts in. -/
structure Cursor where
  rest : List Char
  line : Nat
  column : Nat

namespace Cursor

def ofChars (cs : List Char) : Cursor :=
  ⟨cs, 0, 0⟩

/-- Steps over characters of one line. -/
def skip (n : Nat) (c : Cursor) : Cursor :=
  ⟨c.rest.drop n, c.line, c.column + n⟩

/-- A mark of three hyphens or dots at the start of a line. -/
def isMark (text : String) (c : Cursor) : Bool :=
  c.column == 0 && c.rest.take 3 == text.toList && atGap (c.rest.drop 3)

def isDivider (c : Cursor) : Bool :=
  c.isMark "---" || c.isMark "..."

def isDone (c : Cursor) : Bool :=
  c.rest.isEmpty || c.isDivider

def isIndicator (indicator : Char) (c : Cursor) : Bool :=
  match c.rest with
  | first :: rest => first == indicator && atGap rest
  | [] => false

/-- Skips blanks, comments and line ends. Tabs are blanks where `tabs` says so, and on later lines
in flow context only. -/
def gapFrom (flow : Bool) (tabs comment : Bool) (line column : Nat) : List Char → Cursor
  | [] => ⟨[], line, column⟩
  | c :: rest =>
    if c == '\n' then gapFrom flow flow false (line + 1) 0 rest
    else if comment || c == ' ' || (tabs && c == '\t') then
      gapFrom flow tabs comment line (column + 1) rest
    else if c == '#' then gapFrom flow tabs true line (column + 1) rest
    else ⟨c :: rest, line, column⟩

def gap (flow tabs : Bool) (c : Cursor) : Cursor :=
  gapFrom flow tabs false c.line c.column c.rest

def spaces (c : Cursor) : Cursor :=
  c.skip (c.rest.takeWhile isSpace).length

end Cursor

end Walkthrough.Document.Yaml
