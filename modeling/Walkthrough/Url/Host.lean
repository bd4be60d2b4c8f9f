import Walkthrough.Text.Alphabetic
import Walkthrough.Text.Lowercase
import Walkthrough.Text.Quoted
import Walkthrough.Text.Search
import Walkthrough.Url.Percent
import Walkthrough.Url.Punycode

namespace Walkthrough

inductive UrlError
  | emptyHost
  | domainName
  | domainCharacter
  | portNumber
  | ipv4
  | ipv6
  | noBase
  | flatBase
  deriving Repr, DecidableEq

def UrlError.message : UrlError → String
  | emptyHost => "empty host"
  | domainName => "invalid international domain name"
  | domainCharacter => "invalid domain character"
  | portNumber => "invalid port number"
  | ipv4 => "invalid IPv4 address"
  | ipv6 => "invalid IPv6 address"
  | noBase => "relative URL without a base"
  | flatBase => "relative URL with a cannot-be-a-base base"

namespace Url

/-- A part of an address, `none` if it is no number. Hexadecimal after `0x`, octal after `0`. -/
def ipv4Number? (part : List Char) : Option Nat :=
  let digits (base : Nat) (cs : List Char) : Option Nat :=
    if cs.isEmpty then some 0 else Text.digitsValue? base cs
  match part with
  | [] => none
  | '0' :: 'x' :: rest | '0' :: 'X' :: rest => digits 16 rest
  | '0' :: c :: rest => digits 8 (c :: rest)
  | _ => digits 10 part

def endsInNumber (domain : List Char) : Bool :=
  let parts := (Text.splitAt '.' domain).reverse
  let last := match parts with
    | [] :: rest => rest.head?
    | _ => parts.head?
  last.any fun part => (!part.isEmpty && part.all Char.isDigit) || (ipv4Number? part).isSome

/-- The value of an address in one to four parts; the last one fills what the others leave. -/
def ipv4? (domain : List Char) : Except UrlError Nat :=
  let parts := Text.splitAt '.' domain
  let parts := if parts.getLast? == some [] then parts.dropLast else parts
  match (parts.mapM ipv4Number?).map List.reverse with
  | some (last :: earlier) =>
    let n := earlier.length
    if 3 < n || Nat.pow 2 (32 - 8 * n) ≤ last || earlier.any (255 < ·) then .error .ipv4
    else
      .ok (earlier.reverse.zipIdx.foldl (fun sum (x, i) => sum + x * Nat.pow 2 (8 * (3 - i))) last)
  | _ => .error .ipv4

def ipv4Text (n : Nat) : String :=
  ".".intercalate ([24, 16, 8, 0].map fun shift => toString (n / Nat.pow 2 shift % 256))

def byte? (cs : List Char) : Option Nat :=
  match cs with
  | '0' :: _ :: _ => none
  | _ => (Text.digitsValue? 10 cs).filter (· ≤ 255)

/-- The last two pieces, written as an address of version 4. -/
def dottedPieces? (cs : List Char) : Option (List Nat) :=
  match (Text.splitAt '.' cs).mapM byte? with
  | some [a, b, c, d] => some [256 * a + b, 256 * c + d]
  | _ => none

def pieces? (cs : List Char) : Option (List Nat) :=
  if cs.isEmpty then some []
  else
    let parts := Text.splitAt ':' cs
    let piece (p : List Char) : Option Nat := if p.length ≤ 4 then Text.digitsValue? 16 p else none
    match parts.getLast? with
    | some last =>
      if last.contains '.' then
        (parts.dropLast.mapM piece).bind fun front => (dottedPieces? last).map (front ++ ·)
      else parts.mapM piece
    | none => some []

/-- The two sides of the first `::`. -/
def splitGap : List Char → Option (List Char × List Char)
  | ':' :: ':' :: rest => some ([], rest)
  | c :: rest => (splitGap rest).map fun (a, b) => (c :: a, b)
  | [] => none

def ipv6? (cs : List Char) : Except UrlError (List Nat) :=
  let result := match splitGap cs with
    | none => (pieces? cs).filter (·.length == 8)
    | some (left, right) =>
      if left.contains '.' then none
      else
        (pieces? left).bind fun a => (pieces? right).bind fun b =>
          if a.length + b.length ≤ 7 then some (a ++ List.replicate (8 - a.length - b.length) 0 ++ b)
          else none
  match result with
  | some pieces => .ok pieces
  | none => .error .ipv6

def zeroRun (pieces : List Nat) : Nat :=
  (pieces.takeWhile (· == 0)).length

/-- Start and length of the longest run of zeros, the first of several. -/
def longestGap (pieces : List Nat) : Nat × Nat :=
  (List.range pieces.length).foldl
    (fun best i => let n := zeroRun (pieces.drop i); if best.2 < n then (i, n) else best) (0, 0)

def ipv6Text (pieces : List Nat) : String :=
  let (start, size) := longestGap pieces
  let text (ps : List Nat) := ":".intercalate (ps.map Text.hexDigits)
  if size < 2 then "[" ++ text pieces ++ "]"
  else "[" ++ text (pieces.take start) ++ "::" ++ text (pieces.drop (start + size)) ++ "]"

def isForbiddenInDomain (c : Char) : Bool :=
  c.toNat ≤ 32 || c.toNat == 127 || "%#/:<>?@[\\]^|".toList.contains c

/-- Characters beyond ASCII that stand for their lower case in a domain name. -/
def domainRanges : Text.Ranges :=
  [(0xc0, 0xd6), (0xd8, 0xf6), (0xf8, 0x12f), (0x131, 0x131), (0x134, 0x13e), (0x141, 0x148),
   (0x14a, 0x17e), (0x180, 0x1c3), (0x1cd, 0x1ef), (0x1f4, 0x24f), (0x370, 0x373),
   (0x376, 0x377), (0x37b, 0x37d), (0x37f, 0x37f), (0x386, 0x386), (0x388, 0x38a),
   (0x38c, 0x38c), (0x38e, 0x38f), (0x391, 0x3a1), (0x3a3, 0x3af), (0x3b1, 0x3cf),
   (0x3d7, 0x3ef), (0x3f3, 0x3f3), (0x3f7, 0x3f8), (0x3fa, 0x481), (0x48a, 0x4bf),
   (0x4c1, 0x52f), (0x531, 0x556), (0x559, 0x559), (0x560, 0x586), (0xe01, 0xe30),
   (0xe32, 0xe32), (0xe40, 0xe46), (0x10d0, 0x10fa), (0x10fd, 0x10ff), (0x1e00, 0x1e95),
   (0x1e9c, 0x1e9d), (0x1e9f, 0x1eff), (0x3041, 0x3096), (0x309d, 0x309e), (0x30a1, 0x30fa),
   (0x30fc, 0x30fe), (0x3105, 0x312f), (0x3400, 0x4dbf), (0x4e00, 0x9fff), (0xac00, 0xd7a3),
   (0x20000, 0x2a6df)]

/-- The form in which a character of a domain name is compared: lower case, full-width forms as
ASCII, the ideographic full stop as a full stop. Invisible characters disappear. A character whose
form is not held has none. -/
def domainChar? (c : Char) : Option (List Char) :=
  let n := c.toNat
  if n < 128 then some [c.toLower]
  else if n == 0xad || n == 0x200b || n == 0x2060 || n == 0xfeff || (0xfe00 ≤ n && n ≤ 0xfe0f) then
    some []
  else if n == 0x3002 || n == 0xff61 then some ['.']
  else if n == 0xa0 || n == 0x3000 then some [' ']
  else if 0xff01 ≤ n && n ≤ 0xff5e then some [(Char.ofNat (n - 0xfee0)).toLower]
  else if domainRanges.contains n then some (Text.lowerChar c)
  else none

def isDomainChar (c : Char) : Bool :=
  c.toNat < 128 || (domainRanges.contains c.toNat && Text.lowerChar c == [c])

def asciiLabel? (label : List Char) : Option (List Char) :=
  match Text.after? "xn--".toList label with
  | some code =>
    match Punycode.decode? code with
    | some text =>
      if label.all (·.toNat < 128) && text.any (128 ≤ ·.toNat) && text.all isDomainChar &&
        Punycode.encode text == code then some label else none
    | none => none
  | none =>
    if label.all (·.toNat < 128) then some label
    else if label.all isDomainChar then some ("xn--".toList ++ Punycode.encode label)
    else none

def asciiDomain (cs : List Char) : Except UrlError (List Char) :=
  match cs.mapM domainChar? with
  | none => .error .domainName
  | some forms =>
    let mapped := forms.flatten
    if mapped.any isForbiddenInDomain then .error .domainName
    else match (Text.splitAt '.' mapped).mapM asciiLabel? with
      | some labels => .ok (['.'].intercalate labels)
      | none => .error .domainName

def bracketedHost (cs : List Char) : Except UrlError String :=
  if cs.getLast? == some ']' then (ipv6? cs.dropLast).map ipv6Text else .error .ipv6

/-- The host of a scheme with domain names, in its normal form. -/
def specialHost (cs : List Char) : Except UrlError String :=
  match cs with
  | '[' :: rest => bracketedHost rest
  | _ =>
    match decode? cs with
    | none => .error .domainName
    | some decoded => do
      let domain ← asciiDomain decoded
      if domain.isEmpty then throw .emptyHost
      if endsInNumber domain then return ipv4Text (← ipv4? domain)
      return String.ofList domain

def isForbiddenInHost (c : Char) : Bool :=
  c == '\x00' || "\t\n\r #/:<>?@[\\]^|".toList.contains c

def opaqueHost (cs : List Char) : Except UrlError String :=
  match cs with
  | '[' :: rest => bracketedHost rest
  | _ =>
    if cs.any isForbiddenInHost then .error .domainCharacter
    else .ok (String.ofList (encodeChars reservedNowhere cs))

end Url

end Walkthrough
