import Walkthrough.Text.Blank
import Walkthrough.Text.Lines
import Walkthrough.Text.Search

namespace Walkthrough

/-- What variables are set to. -/
abbrev Variables := String → Option String

def Variables.given? (v : Variables) (name : String) : Option String :=
  (v name).filter fun value => !Text.isBlankText value

/-- Names and values; the first of a name counts. -/
abbrev Environment := List (String × String)

namespace Environment

def toVariables (e : Environment) : Variables := fun name =>
  e.lookup name

/-- A value in double quotes, with its escapes undone one kind after the other. -/
def unquoted (value : List Char) : String :=
  match value with
  | '"' :: rest =>
    if rest.getLast? == some '"' then
      Text.replace "\\t" "\t" (Text.replace "\\r" "\r" (Text.replace "\\n" "\n"
        (Text.replace "\\\"" "\"" (String.ofList rest.dropLast))))
    else String.ofList value
  | _ => String.ofList value

/-- The variable that a line sets; blank lines, comments and lines without a name set none. -/
def ofLine? (line : String) : Option (String × String) :=
  let cs := Text.trimChars line.toList
  if cs.head? == some '#' then none
  else (Text.splitOnce '=' cs).bind fun (name, value) =>
    let name := Text.trimChars name
    if name.isEmpty then none
    else some (String.ofList name, unquoted (Text.trimChars value))

/-- The variables together with those of a file that are not set yet. -/
def withFile (e : Environment) (text : String) : Environment :=
  e ++ (Text.lines text).filterMap ofLine?

end Environment

end Walkthrough
