import Walkthrough.Url.Basic

namespace Walkthrough.Url

/-- The text that counts: trimmed of controls and spaces, without tabs and line ends. -/
def significant (s : String) : List Char :=
  let isEdge (c : Char) := c.toNat ≤ 32
  let trimmed := ((s.toList.dropWhile isEdge).reverse.dropWhile isEdge).reverse
  trimmed.filter fun c => c != '\t' && c != '\n' && c != '\r'

/-- The scheme in lower case and what follows its colon. -/
def splitScheme? (cs : List Char) : Option (String × List Char) :=
  match cs.span fun c => c.isAlphanum || c == '+' || c == '-' || c == '.' with
  | (c :: more, ':' :: rest) =>
    if c.isAlpha then some (String.ofList ((c :: more).map Char.toLower), rest) else none
  | _ => none

/-- Where a special scheme is used, a backslash in the authority or the path counts as a slash. -/
def isSlash (special : Bool) (c : Char) : Bool :=
  c == '/' || (special && c == '\\')

def endsPath (c : Char) : Bool :=
  c == '?' || c == '#'

/-- Query and fragment of a text that is empty or starts with `?` or `#`. -/
def queryAndFragment (special : Bool) (cs : List Char) : Option String × Option String :=
  let fragmentOf (rest : List Char) : Option String :=
    match rest with
    | '#' :: f => some (String.ofList (encodeChars reservedInFragment f))
    | _ => none
  match cs with
  | '?' :: rest =>
    let (q, rest) := rest.span (· != '#')
    (some (String.ofList (encodeChars (reservedInQuery special) q)), fragmentOf rest)
  | _ => (none, fragmentOf cs)

def isDot (segment : String) : Bool :=
  [".", "%2e"].contains (Text.lowercaseAscii segment)

def isDoubleDot (segment : String) : Bool :=
  ["..", "%2e.", ".%2e", "%2e%2e"].contains (Text.lowercaseAscii segment)

def isDriveLetter (segment : String) : Bool :=
  match segment.toList with
  | [c, d] => c.isAlpha && (d == ':' || d == '|')
  | _ => false

/-- The parent of a path given backwards; the drive of a file stays. -/
def parent (isFile : Bool) (back : List String) : List String :=
  match back with
  | [] => []
  | [drive] => if isFile && isDriveLetter drive then [drive] else []
  | _ :: rest => rest

/-- Appends one raw segment to a path given backwards; `isLast` says that no slash follows it. -/
def appendSegment (isFile : Bool) (back : List String) (raw : List Char) (isLast : Bool) : List String :=
  let segment := String.ofList (encodeChars reservedInPath raw)
  if isDoubleDot segment then
    let up := parent isFile back
    if isLast then "" :: up else up
  else if isDot segment then if isLast then "" :: back else back
  else if isFile && back.isEmpty && isDriveLetter segment then
    String.ofList [segment.toList.headD 'C', ':'] :: back
  else segment :: back

/-- Reads the segments of a path up to the query or the fragment. -/
def segmentsFrom (special isFile : Bool) (raw : List Char) (back : List String) :
    List Char → List String × List Char
  | [] => (appendSegment isFile back raw.reverse true, [])
  | c :: rest =>
    if isSlash special c then segmentsFrom special isFile [] (appendSegment isFile back raw.reverse false) rest
    else if endsPath c then (appendSegment isFile back raw.reverse true, c :: rest)
    else segmentsFrom special isFile (c :: raw) back rest

/-- The path of a file has no empty segments in front. -/
def dropEmptyFront : List String → List String
  | "" :: s :: rest => dropEmptyFront (s :: rest)
  | parts => parts

/-- A path from the segments `back`, given backwards, followed by those of the text. -/
def readPath (scheme : String) (back : List String) (cs : List Char) : Path × List Char :=
  let isFile := scheme == "file"
  let (back, rest) := segmentsFrom (isSpecialScheme scheme) isFile [] back cs
  let parts := back.reverse
  (.segments (if isFile then dropEmptyFront parts else parts), rest)

/-- The path after an authority: absent only for a scheme that is not special. -/
def readPathStart (scheme : String) (cs : List Char) : Path × List Char :=
  let special := isSpecialScheme scheme
  match cs with
  | [] => if special then (.segments [""], []) else (.segments [], [])
  | c :: rest =>
    if isSlash special c then readPath scheme [] rest
    else if endsPath c && !special then (.segments [], c :: rest)
    else readPath scheme [] (c :: rest)

def withTail (u : Url) (cs : List Char) : Url :=
  let (query, fragment) := queryAndFragment u.isSpecial cs
  { u with query := query, fragment := fragment }

/-- The user information before the last `@` of the authority. -/
def splitUser (special : Bool) (cs : List Char) : Option (List Char) × List Char :=
  let (authority, rest) := cs.span fun c => !isSlash special c && !endsPath c
  let (tail, lead) := authority.reverse.span (· != '@')
  match lead with
  | [] => (none, cs)
  | _ :: user => (some user.reverse, tail.reverse ++ rest)

/-- The host is everything up to a colon outside brackets or the end of the authority. -/
def spanHost (special inBrackets : Bool) : List Char → List Char × List Char
  | [] => ([], [])
  | c :: rest =>
    if (c == ':' && !inBrackets) || isSlash special c || endsPath c then ([], c :: rest)
    else
      let (host, after) := spanHost special (if c == '[' then true else if c == ']' then false else inBrackets) rest
      (c :: host, after)

/-- The number after the colon of a host; the default of the scheme is left out. -/
def readPortNumber (scheme : String) (cs : List Char) : Except UrlError (Option Nat × List Char) := do
  let (digits, rest) := cs.span Char.isDigit
  let ends := match rest with
    | [] => true
    | c :: _ => c == '/' || c == '\\' || endsPath c
  if digits.isEmpty then
    if ends then return (none, rest) else throw .portNumber
  match (Text.digitsValue? 10 digits).filter (· ≤ Text.maxU16) with
  | none => throw .portNumber
  | some n =>
    if !ends then throw .portNumber
    return (if defaultPortNumber? scheme == some n then none else some n, rest)

/-- User and password, percent-encoded. -/
def readUser (user : List Char) : String × String :=
  let (name, rest) := user.span (· != ':')
  (String.ofList (encodeChars reservedInUser name),
    String.ofList (encodeChars reservedInUser (rest.drop 1)))

def readAuthority (scheme : String) (cs : List Char) : Except UrlError Url := do
  let special := isSpecialScheme scheme
  let (user, rest) := splitUser special cs
  if user == some [] && (rest.head?.any fun c => isSlash special c || endsPath c) then throw .emptyHost
  let (name, password) := readUser (user.getD [])
  let (hostChars, rest) := spanHost special false rest
  if hostChars.isEmpty && (special || !(name.isEmpty && password.isEmpty) || rest.head? == some ':') then
    throw .emptyHost
  let host ← if special then specialHost hostChars else opaqueHost hostChars
  let (portNumber, rest) ← match rest with
    | ':' :: rest => readPortNumber scheme rest
    | _ => pure (none, rest)
  let (path, rest) := readPathStart scheme rest
  return (Url.mk scheme name password (some host) portNumber path none none).withTail rest

def startsWithDrive (cs : List Char) : Bool :=
  match cs with
  | c :: d :: rest =>
    c.isAlpha && (d == ':' || d == '|') && (rest.head?.all fun e => isSlash true e || endsPath e)
  | _ => false

def fileUrl (host : String) (back : List String) (cs : List Char) : Url :=
  let (path, rest) := readPath "file" back cs
  (Url.mk "file" "" "" (some host) none path none none).withTail rest

/-- What follows `file:`, or a reference relative to a file. -/
def readFile (base : Option Url) (cs : List Char) : Except UrlError Url :=
  match cs with
  | c :: rest =>
    if isSlash true c then
      match rest with
      | d :: after =>
        if isSlash true d then do
          let (hostChars, tail) := after.span fun e => !isSlash true e && !endsPath e
          if isDriveLetter (String.ofList hostChars) then return fileUrl "" [] after
          let host ← if hostChars.isEmpty then pure "" else specialHost hostChars
          let tail := match tail with
            | e :: more => if isSlash true e then more else tail
            | [] => []
          return fileUrl (if host == "localhost" then "" else host) [] tail
        else return fileUrl ((base.bind (·.host)).getD "") [] rest
      | [] => return fileUrl ((base.bind (·.host)).getD "") [] rest
    else match base with
      | none => return fileUrl "" [] cs
      | some b =>
        if c == '#' then return { b with fragment := (queryAndFragment true cs).2 }
        else if c == '?' then return b.withTail cs
        else if startsWithDrive cs then return fileUrl "" [] cs
        else return fileUrl (b.host.getD "") (parent true b.segmentList.reverse) cs
  | [] =>
    match base with
    | none => return fileUrl "" [] []
    | some b => return { b with fragment := none }

/-- A scheme that is not special: with an authority, with a path from the root, or without
structure. -/
def readPlain (scheme : String) (cs : List Char) : Except UrlError Url :=
  match cs with
  | '/' :: '/' :: rest => readAuthority scheme rest
  | '/' :: rest =>
    let (path, rest) := readPath scheme [] rest
    return (Url.mk scheme "" "" none none path none none).withTail rest
  | _ =>
    let (text, rest) := cs.span fun c => !endsPath c
    let path := Path.flat (String.ofList (encodeChars reservedNowhere text))
    return (Url.mk scheme "" "" none none path none none).withTail rest

/-- A reference without a scheme, or with the scheme of its special base. -/
def readRelative (base : Url) (cs : List Char) : Except UrlError Url :=
  match cs with
  | [] => return { base with fragment := none }
  | '?' :: _ => return base.withTail cs
  | '#' :: _ => return { base with fragment := (queryAndFragment base.isSpecial cs).2 }
  | c :: rest =>
    if isSlash true c then
      if rest.head?.any (isSlash true) then
        match cs with
        | '/' :: '/' :: after => readAuthority base.scheme after
        | _ => readAuthority base.scheme (cs.dropWhile (isSlash true))
      else
        let (path, tail) := readPath base.scheme [] rest
        return { base with path := path }.withTail tail
    else
      let (path, tail) := readPath base.scheme (base.segmentList.reverse.drop 1) cs
      return { base with path := path }.withTail tail

def read (base : Option Url) (s : String) : Except UrlError Url :=
  let cs := significant s
  match splitScheme? cs with
  | some (scheme, rest) =>
    if scheme == "file" then readFile (base.filter (·.scheme == "file")) rest
    else if isSpecialScheme scheme then
      let slashes := rest.takeWhile (isSlash true)
      match base.filter fun b => b.scheme == scheme && slashes.length < 2 with
      | some b => readRelative b rest
      | none => readAuthority scheme (rest.drop slashes.length)
    else readPlain scheme rest
  | none =>
    match base with
    | none => .error .noBase
    | some b =>
      if cs.head? == some '#' then return { b with fragment := (queryAndFragment b.isSpecial cs).2 }
      else if b.isFlat then .error .flatBase
      else if b.scheme == "file" then readFile base cs
      else readRelative b cs

def parse (s : String) : Except UrlError Url :=
  read none s

def join (base : Url) (reference : String) : Except UrlError Url :=
  read (some base) reference

/-- The normal form of the text of a URL; any other text stays as it is. -/
def normalize (s : String) : String :=
  match parse s with
  | .ok u => u.toText
  | .error _ => s

end Walkthrough.Url
