import Walkthrough.Text.Alphabetic
import Walkthrough.Text.Blank

namespace Walkthrough.Phrasing

/-- Drops a number followed by `.` or `)` and the blanks around it. -/
def dropNumber (cs : List Char) : List Char :=
  let (digits, rest) := (Text.dropBlanks cs).span Text.isDecimalDigit
  match rest with
  | c :: after => if !digits.isEmpty && (c == '.' || c == ')') then Text.dropBlanks after else cs
  | [] => cs

/-- Drops one hyphen and the blanks around it. -/
def dropHyphen (cs : List Char) : List Char :=
  match Text.dropBlanks cs with
  | '-' :: rest => Text.dropBlanks rest
  | _ => cs

def withoutMarkerChars (cs : List Char) : List Char :=
  Text.trimChars (dropHyphen (dropNumber cs))

def withoutMarker (line : String) : String :=
  String.ofList (withoutMarkerChars line.toList)

end Walkthrough.Phrasing
