import Walkthrough.Pattern.Basic
import Walkthrough.Text.Numeral
import Walkthrough.Text.Search

namespace Walkthrough.Pattern

inductive Fault
  | groupUnclosed
  | groupUnopened
  | groupName
  | lookAround
  | flag
  | operandMissing
  | repetitionBounds
  | setUnclosed
  | setRange
  | escape
  | backreference
  | property
  | tooLarge
  deriving Repr, DecidableEq

structure Flags where
  anyCase : Bool
  multiLine : Bool
  dotAll : Bool
  lazyFirst : Bool
  spaced : Bool
  /-- Carriage returns end lines, too. -/
  anyLineEnd : Bool
  deriving Repr, DecidableEq

def Flags.plain : Flags :=
  ⟨false, false, false, false, false, false⟩

namespace Flags

/-- What a point accepts. -/
def point (f : Flags) : CharSet :=
  if f.dotAll then .all
  else if f.anyLineEnd then .complement (.union (.single '\r') (.single '\n'))
  else .complement (.single '\n')

def start (f : Flags) : Anchor :=
  if !f.multiLine then .textStart else if f.anyLineEnd then .anyLineStart else .lineStart

def stop (f : Flags) : Anchor :=
  if !f.multiLine then .textEnd else if f.anyLineEnd then .anyLineEnd else .lineEnd

end Flags

/-- What has been read so far: the rest of the text, the number of the last group, and the names
of groups. -/
structure Reading where
  rest : List Char
  groups : Nat
  names : List String

/-- Skips blanks and comments where the flag for spaced patterns is set. -/
def skipSpaced (flags : Flags) : Nat → List Char → List Char
  | 0, cs => cs
  | fuel + 1, cs =>
    if !flags.spaced then cs
    else match cs with
      | '#' :: rest => skipSpaced flags fuel (rest.dropWhile (· != '\n'))
      | c :: rest => if Text.isBlank c then skipSpaced flags fuel rest else cs
      | [] => []

def skipped (flags : Flags) (cs : List Char) : List Char :=
  skipSpaced flags cs.length cs

/-- What a backslash and the characters after it stand for. -/
inductive Escape
  | literal (c : Char)
  | set (s : CharSet)
  | place (a : Anchor)

def isMeta (c : Char) : Bool :=
  "\\.+*?()|[]\x7b\x7d^$#&-~".toList.contains c

def charOfHex (digits : List Char) : Except Fault Char :=
  match Text.digitsValue? 16 digits with
  | some n => if n.isValidChar then .ok (Char.ofNat n) else .error .escape
  | none => .error .escape

/-- A character given in hexadecimal, with `width` digits or between braces. -/
def hexEscape (width : Nat) : List Char → Except Fault (Escape × List Char)
  | '\x7b' :: rest =>
    match rest.span (· != '\x7d') with
    | (digits, _ :: after) => (charOfHex digits).map fun c => (.literal c, after)
    | (_, []) => .error .escape
  | cs =>
    if cs.length < width then .error .escape
    else (charOfHex (cs.take width)).map fun c => (.literal c, cs.drop width)

/-- The names of properties that can be used as a set, in small letters and without separators. -/
def propertySets : List (String × CharSet) :=
  [("any", .all), ("ascii", .range '\x00' '\x7f'),
   ("nd", .digit), ("digit", .digit), ("decimalnumber", .digit),
   ("whitespace", .blank), ("space", .blank), ("wspace", .blank),
   ("l", .property .letter), ("letter", .property .letter),
   ("lu", .property .capital), ("uppercaseletter", .property .capital),
   ("ll", .property .small), ("lowercaseletter", .property .small),
   ("n", .property .number), ("number", .property .number),
   ("alphabetic", .property .alphabetic), ("alpha", .property .alphabetic)]

/-- A property by its name, which may be written with separators and in any case, and follow the
name of the general category. -/
def propertySet? (name : String) : Option CharSet :=
  let plain (cs : List Char) := String.ofList ((cs.filter Char.isAlphanum).map Char.toLower)
  let value := match Text.splitOnce '=' name.toList <|> Text.splitOnce ':' name.toList with
    | none => some name.toList
    | some (category, value) =>
      if ["gc", "generalcategory"].contains (plain category) then some value else none
  value.bind fun v => propertySets.lookup (plain v)

def withCase (flags : Flags) (s : CharSet) : CharSet :=
  if flags.anyCase then .anyCase s else s

def propertyEscape (flags : Flags) (negated : Bool) (cs : List Char) : Except Fault (Escape × List Char) :=
  let named : Option (List Char × List Char) := match cs with
    | '\x7b' :: rest =>
      match rest.span (· != '\x7d') with
      | (name, _ :: after) => some (name, after)
      | (_, []) => none
    | c :: rest => some ([c], rest)
    | [] => none
  match named with
  | none => .error .escape
  | some (name, after) =>
    let (inverted, name) := match name with
      | '^' :: rest => (true, rest)
      | _ => (false, name)
    match propertySet? (String.ofList name) with
    | some s =>
      let s := withCase flags s
      .ok (.set (if negated != inverted then .complement s else s), after)
    | none => .error .property

def wordEdgeEscape (cs : List Char) : Escape × List Char :=
  let named (word : String) (a : Anchor) : Option (Escape × List Char) :=
    if word.toList.isPrefixOf cs then some (.place a, cs.drop word.length) else none
  (named "\x7bstart\x7d" .wordStart <|> named "\x7bend\x7d" .wordEnd <|>
    named "\x7bstart-half\x7d" .wordStartHalf <|>
    named "\x7bend-half\x7d" .wordEndHalf).getD (.place .wordEdge, cs)

def escape (flags : Flags) : List Char → Except Fault (Escape × List Char)
  | [] => .error .escape
  | c :: rest =>
    if c.isDigit then .error .backreference
    else match c with
      | 'x' => hexEscape 2 rest
      | 'u' => hexEscape 4 rest
      | 'U' => hexEscape 8 rest
      | 'p' => propertyEscape flags false rest
      | 'P' => propertyEscape flags true rest
      | 'd' => .ok (.set .digit, rest)
      | 's' => .ok (.set .blank, rest)
      | 'w' => .ok (.set .word, rest)
      | 'D' => .ok (.set (.complement .digit), rest)
      | 'S' => .ok (.set (.complement .blank), rest)
      | 'W' => .ok (.set (.complement .word), rest)
      | 'a' => .ok (.literal '\x07', rest)
      | 'f' => .ok (.literal '\x0c', rest)
      | 't' => .ok (.literal '\t', rest)
      | 'n' => .ok (.literal '\n', rest)
      | 'r' => .ok (.literal '\r', rest)
      | 'v' => .ok (.literal '\x0b', rest)
      | 'A' => .ok (.place .textStart, rest)
      | 'z' => .ok (.place .textEnd, rest)
      | 'b' => .ok (wordEdgeEscape rest)
      | 'B' => .ok (.place .noWordEdge, rest)
      | '<' => .ok (.place .wordStart, rest)
      | '>' => .ok (.place .wordEnd, rest)
      | _ =>
        if isMeta c || (c.toNat < 128 && !c.isAlphanum) then .ok (.literal c, rest)
        else .error .escape

/-- A set of ASCII characters by its name. -/
def asciiSet? (name : String) : Option CharSet :=
  match name with
  | "alnum" => some (.ranges [('0', '9'), ('A', 'Z'), ('a', 'z')])
  | "alpha" => some (.ranges [('A', 'Z'), ('a', 'z')])
  | "ascii" => some (.range '\x00' '\x7f')
  | "blank" => some (.ranges [('\t', '\t'), (' ', ' ')])
  | "cntrl" => some (.ranges [('\x00', '\x1f'), ('\x7f', '\x7f')])
  | "digit" => some (.range '0' '9')
  | "graph" => some (.range '!' '~')
  | "lower" => some (.range 'a' 'z')
  | "print" => some (.range ' ' '~')
  | "punct" => some (.ranges [('!', '/'), (':', '@'), ('[', '\x60'), ('\x7b', '~')])
  | "space" => some (.ranges [('\t', '\r'), (' ', ' ')])
  | "upper" => some (.range 'A' 'Z')
  | "word" => some (.ranges [('0', '9'), ('A', 'Z'), ('_', '_'), ('a', 'z')])
  | "xdigit" => some (.ranges [('0', '9'), ('A', 'F'), ('a', 'f')])
  | _ => none

/-- A named ASCII set between `[:` and `:]`. -/
def asciiClass? (cs : List Char) : Option (CharSet × List Char) :=
  match cs with
  | '[' :: ':' :: rest =>
    let (negated, rest) := match rest with
      | '^' :: r => (true, r)
      | _ => (false, rest)
    match rest.span (· != ':') with
    | (name, ':' :: ']' :: after) =>
      (asciiSet? (String.ofList name)).map fun s => (if negated then .complement s else s, after)
    | _ => none
  | _ => none

/-- One member of a bracketed set: a single character or a class. -/
def setItem (flags : Flags) (cs : List Char) : Except Fault (Escape × List Char) :=
  match cs with
  | [] => .error .setUnclosed
  | '\\' :: rest => do
    match ← escape flags rest with
    | (.place _, _) => .error .escape
    | item => .ok item
  | c :: rest => .ok (.literal c, rest)

def Escape.toSet : Escape → CharSet
  | .literal c => .single c
  | .set s => s
  | .place _ => .none

/-- One member of a bracketed set, or a range from one character to another. -/
def setRange (flags : Flags) (cs : List Char) : Except Fault (CharSet × List Char) := do
  let (first, rest) ← setItem flags cs
  let rest := skipped flags rest
  match rest with
  | [] => .error .setUnclosed
  | '-' :: after =>
    match skipped flags after with
    | ']' :: _ | '-' :: _ => .ok (first.toSet, rest)
    | after => do
      if after.isEmpty then throw .setUnclosed
      let (last, rest) ← setItem flags after
      match first, last with
      | .literal a, .literal b =>
        if a.toNat ≤ b.toNat then .ok (.range a b, rest) else .error .setRange
      | _, _ => .error .setRange
  | _ => .ok (first.toSet, rest)

inductive SetOperator
  | intersection
  | difference
  | symmetricDifference

def SetOperator.combine : SetOperator → CharSet → CharSet → CharSet
  | intersection, s, t => .inter s t
  | difference, s, t => s.difference t
  | symmetricDifference, s, t => s.symmetricDifference t

/-- What a bracketed set has so far: the operation that waits for its right side, and the members
of the union being read. -/
structure SetReading where
  pending : Option (CharSet × SetOperator)
  union : CharSet

def SetReading.value (flags : Flags) (r : SetReading) : CharSet :=
  match r.pending with
  | none => r.union
  | some (s, op) => op.combine (withCase flags s) (withCase flags r.union)

def SetReading.add (r : SetReading) (s : CharSet) : SetReading :=
  { r with union := .union r.union s }

/-- The start of a bracketed set: negation, leading hyphens and a leading bracket. -/
def setOpening (flags : Flags) (cs : List Char) : Bool × CharSet × List Char :=
  let cs := skipped flags cs
  let (negated, cs) := match cs with
    | '^' :: rest => (true, skipped flags rest)
    | _ => (false, cs)
  let hyphens := cs.takeWhile (· == '-')
  let cs := cs.dropWhile (· == '-')
  if !hyphens.isEmpty then (negated, .union .none (.single '-'), cs)
  else match cs with
    | ']' :: rest => (negated, .union .none (.single ']'), rest)
    | _ => (negated, .none, cs)

def bracketed (flags : Flags) : Nat → Bool → SetReading → List Char → Except Fault (CharSet × List Char)
  | 0, _, _, _ => .error .setUnclosed
  | fuel + 1, negated, r, cs =>
    match skipped flags cs with
    | [] => .error .setUnclosed
    | '[' :: rest =>
      match asciiClass? ('[' :: rest) with
      | some (s, after) => bracketed flags fuel negated (r.add s) after
      | none => do
        let (innerNegated, members, body) := setOpening flags rest
        let (s, after) ← bracketed flags fuel innerNegated ⟨none, members⟩ body
        bracketed flags fuel negated (r.add s) after
    | ']' :: rest =>
      let s := withCase flags (r.value flags)
      .ok (if negated then .complement s else s, rest)
    | '&' :: '&' :: rest => bracketed flags fuel negated ⟨some (r.value flags, .intersection), .none⟩ rest
    | '-' :: '-' :: rest => bracketed flags fuel negated ⟨some (r.value flags, .difference), .none⟩ rest
    | '~' :: '~' :: rest =>
      bracketed flags fuel negated ⟨some (r.value flags, .symmetricDifference), .none⟩ rest
    | cs => do
      let (s, after) ← setRange flags cs
      bracketed flags fuel negated (r.add s) after

def count (cs : List Char) : Except Fault (Nat × List Char) :=
  let cs := Text.dropBlanks cs
  let (digits, rest) := cs.span Char.isDigit
  match (Text.digitsValue? 10 digits).filter (· ≤ Text.maxU32) with
  | some n => .ok (n, Text.dropBlanks rest)
  | none => .error .repetitionBounds

def bounds (cs : List Char) : Except Fault ((Nat × Option Nat) × List Char) := do
  let (min, rest) ← count cs
  match rest with
  | '\x7d' :: rest => .ok ((min, some min), rest)
  | ',' :: rest =>
    match rest with
    | '\x7d' :: rest => .ok ((min, none), rest)
    | _ => do
      let (max, rest) ← count rest
      match rest with
      | '\x7d' :: rest => if min ≤ max then .ok ((min, some max), rest) else .error .repetitionBounds
      | _ => .error .repetitionBounds
  | _ => .error .repetitionBounds

/-- The flags between `(?` and the closing `:` or `)`; those after a hyphen are cleared. Patterns read
characters, so `u` is always set and cannot be cleared. -/
def flagChanges (flags : Flags) (clearing : Bool) (last : Option Char) (seen : List Char) :
    List Char → Except Fault ((Flags × Bool) × List Char)
  | [] => .error .groupUnclosed
  | c :: rest =>
    if c == ':' || c == ')' then
      if last == some '-' || (last.isNone && c == ')') then .error .flag
      else .ok ((flags, c == ':'), rest)
    else if seen.contains c then .error .flag
    else
      let seen := c :: seen
      let value := !clearing
      match c with
      | '-' => flagChanges flags true (some c) seen rest
      | 'i' => flagChanges { flags with anyCase := value } clearing (some c) seen rest
      | 'm' => flagChanges { flags with multiLine := value } clearing (some c) seen rest
      | 's' => flagChanges { flags with dotAll := value } clearing (some c) seen rest
      | 'U' => flagChanges { flags with lazyFirst := value } clearing (some c) seen rest
      | 'x' => flagChanges { flags with spaced := value } clearing (some c) seen rest
      | 'R' => flagChanges { flags with anyLineEnd := value } clearing (some c) seen rest
      | 'u' => if clearing then .error .flag else flagChanges flags clearing (some c) seen rest
      | _ => .error .flag

def isNameChar (isFirst : Bool) (c : Char) : Bool :=
  c == '_' || (if isFirst then Text.isAlphabetic c else
    Text.isAlphanumeric c || c == '.' || c == '[' || c == ']')

def groupName (names : List String) (cs : List Char) : Except Fault (String × List Char) :=
  match cs.span (· != '>') with
  | (_, []) => .error .groupName
  | ([], _) => .error .groupName
  | (c :: more, _ :: rest) =>
    let name := String.ofList (c :: more)
    if isNameChar true c && more.all (isNameChar false) && !names.contains name then .ok (name, rest)
    else .error .groupName

/-- A concatenation being read: its parts, latest first, and whether the last one can be repeated. -/
structure Sequence where
  parts : List Pattern
  repeatable : Bool

def Sequence.start : Sequence :=
  ⟨[], false⟩

def Sequence.add (s : Sequence) (p : Pattern) : Sequence :=
  ⟨p :: s.parts, true⟩

def Sequence.toPattern (s : Sequence) : Pattern :=
  match s.parts with
  | [] => .empty
  | p :: ps => ps.foldl (fun q p => .seq p q) p

/-- Alternatives read so far, latest first, with the one being read. -/
def joinAlternatives : List Pattern → Pattern → Pattern
  | [], p => p
  | q :: qs, p => joinAlternatives qs (.either q p)

def literal (flags : Flags) (c : Char) : Pattern :=
  .one (if flags.anyCase then .letter c else .single c)

/-- The pattern under a repetition sign; a question mark after the sign changes its preference. -/
def repeated (flags : Flags) (s : Sequence) (min : Nat) (max : Option Nat) (rest : List Char) :
    Except Fault (Sequence × List Char) :=
  match s.repeatable, s.parts with
  | true, p :: ps =>
    let (reluctant, rest) := match rest with
      | '?' :: r => (true, r)
      | _ => (false, rest)
    .ok (⟨.many min max (reluctant == flags.lazyFirst) p :: ps, true⟩, rest)
  | _, _ => .error .operandMissing

/-- Reads alternatives up to the end of the text or an unmatched closing parenthesis. Groups are
numbered by their opening parenthesis, and flags set inside a group hold to its end. -/
def alternatives : Nat → Flags → List Pattern → Sequence → Reading → Except Fault (Pattern × Reading)
  | 0, _, _, _, _ => .error .tooLarge
  | fuel + 1, flags, earlier, current, r =>
    let continueWith (s : Sequence) (rest : List Char) :=
      alternatives fuel flags earlier s { r with rest := rest }
    match skipped flags r.rest with
    | [] => .ok (joinAlternatives earlier current.toPattern, { r with rest := [] })
    | ')' :: rest => .ok (joinAlternatives earlier current.toPattern, { r with rest := ')' :: rest })
    | '|' :: rest =>
      alternatives fuel flags (current.toPattern :: earlier) .start { r with rest := rest }
    | '*' :: rest => do
      let (s, rest) ← repeated flags current 0 none rest
      continueWith s rest
    | '+' :: rest => do
      let (s, rest) ← repeated flags current 1 none rest
      continueWith s rest
    | '?' :: rest => do
      let (s, rest) ← repeated flags current 0 (some 1) rest
      continueWith s rest
    | '\x7b' :: rest => do
      if !current.repeatable then throw .operandMissing
      let ((min, max), rest) ← bounds rest
      let (s, rest) ← repeated flags current min max rest
      continueWith s rest
    | '(' :: rest => do
      let inside (inner : Flags) (wrap : Pattern → Pattern) (r : Reading) := do
        let (p, r) ← alternatives fuel inner [] .start r
        match r.rest with
        | ')' :: rest => alternatives fuel flags earlier (current.add (wrap p)) { r with rest := rest }
        | _ => throw .groupUnclosed
      let named (rest : List Char) := do
        let (name, rest) ← groupName r.names rest
        let index := r.groups + 1
        inside flags (.group index) ⟨rest, index, name :: r.names⟩
      match rest with
      | '?' :: '=' :: _ | '?' :: '!' :: _ | '?' :: '<' :: '=' :: _ | '?' :: '<' :: '!' :: _ =>
        throw .lookAround
      | '?' :: 'P' :: '<' :: rest => named rest
      | '?' :: '<' :: rest => named rest
      | '?' :: rest => do
        let ((changed, isGroup), rest) ← flagChanges flags false none [] rest
        if isGroup then inside changed id { r with rest := rest }
        else alternatives fuel changed earlier { current with repeatable := false } { r with rest := rest }
      | _ =>
        let index := r.groups + 1
        inside flags (.group index) ⟨rest, index, r.names⟩
    | '[' :: rest => do
      let (negated, members, body) := setOpening flags rest
      let (s, rest) ← bracketed flags fuel negated ⟨none, members⟩ body
      continueWith (current.add (.one s)) rest
    | '\\' :: rest => do
      let (item, rest) ← escape flags rest
      let p : Pattern := match item with
        | .literal c => literal flags c
        | .set s => .one s
        | .place a => .anchor a
      continueWith (current.add p) rest
    | '.' :: rest => continueWith (current.add (.one flags.point)) rest
    | '^' :: rest => continueWith (current.add (.anchor flags.start)) rest
    | '$' :: rest => continueWith (current.add (.anchor flags.stop)) rest
    | c :: rest => continueWith (current.add (literal flags c)) rest

/-- Patterns with more states than this are refused. -/
def maxWeight : Nat := 250000

def parseChars (cs : List Char) : Except Fault Pattern := do
  let (p, r) ← alternatives (2 * cs.length + 2) .plain [] .start ⟨cs, 0, []⟩
  if !r.rest.isEmpty then throw .groupUnopened
  if maxWeight < p.weight then throw .tooLarge
  return p

def parse (text : String) : Except Fault Pattern :=
  parseChars text.toList

end Walkthrough.Pattern
