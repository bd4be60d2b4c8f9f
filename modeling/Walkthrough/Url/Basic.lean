import Walkthrough.Url.Host

namespace Walkthrough

namespace Url

inductive Path
  /-- A path without structure, as in `mailto:`. -/
  | flat (text : String)
  | segments (parts : List String)
  deriving Repr, DecidableEq

end Url

structure Url where
  scheme : String
  user : String
  password : String
  host : Option String
  portNumber : Option Nat
  path : Url.Path
  query : Option String
  fragment : Option String
  deriving Repr, DecidableEq

namespace Url

def isSpecialScheme (scheme : String) : Bool :=
  ["http", "https", "ws", "wss", "ftp", "file"].contains scheme

def defaultPortNumber? (scheme : String) : Option Nat :=
  match scheme with
  | "http" | "ws" => some 80
  | "https" | "wss" => some 443
  | "ftp" => some 21
  | _ => none

def isSpecial (u : Url) : Bool :=
  isSpecialScheme u.scheme

def isWeb (u : Url) : Bool :=
  u.scheme == "http" || u.scheme == "https"

def segmentList (u : Url) : List String :=
  match u.path with
  | .flat _ => []
  | .segments parts => parts

def isFlat (u : Url) : Bool :=
  match u.path with
  | .flat _ => true
  | .segments _ => false

def credentialText (u : Url) : String :=
  if u.user.isEmpty && u.password.isEmpty then ""
  else u.user ++ (if u.password.isEmpty then "" else ":" ++ u.password) ++ "@"

def authorityText (u : Url) : String :=
  match u.host with
  | none => ""
  | some host =>
    "//" ++ u.credentialText ++ host ++ match u.portNumber with
      | none => ""
      | some number => ":" ++ toString number

/-- A path that begins with an empty segment is set off by `/.` where no host comes before it. -/
def pathText (u : Url) : String :=
  match u.path with
  | .flat text => text
  | .segments parts =>
    let text := String.join (parts.map ("/" ++ ·))
    if u.host.isNone && 1 < parts.length && parts.head? == some "" then "/." ++ text else text

def toText (u : Url) : String :=
  u.scheme ++ ":" ++ u.authorityText ++ u.pathText ++
    (match u.query with | none => "" | some q => "?" ++ q) ++
    (match u.fragment with | none => "" | some f => "#" ++ f)

end Url

end Walkthrough
