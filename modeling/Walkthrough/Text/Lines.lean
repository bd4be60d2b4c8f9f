namespace Walkthrough.Text

/-- Drops the carriage return at the end of a line given backwards, and turns the line round. -/
def finishLine : List Char → List Char
  | '\r' :: back => back.reverse
  | back => back.reverse

/-- The lines of a text; `back` holds the line being read, backwards. -/
def linesFrom (back : List Char) : List Char → List (List Char)
  | [] => if back.isEmpty then [] else [back.reverse]
  | c :: rest => if c == '\n' then finishLine back :: linesFrom [] rest else linesFrom (c :: back) rest

/-- A line ends at a line feed, and a carriage return just before it belongs to the ending. -/
def lines (s : String) : List String :=
  (linesFrom [] s.toList).map String.ofList

end Walkthrough.Text
