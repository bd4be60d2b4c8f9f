import Walkthrough.Text.Numeral

namespace Walkthrough.Url

def hexDigit (n : Nat) : Char :=
  if n < 10 then Char.ofNat (48 + n) else Char.ofNat (55 + n)

def percentByte (b : UInt8) : List Char :=
  ['%', hexDigit (b.toNat / 16), hexDigit (b.toNat % 16)]

def isControl (c : Char) : Bool :=
  c.toNat < 32 || c.toNat == 127

/-- A byte that may not stand for itself is written as `%` and two capital hexadecimal digits, and
so are controls and all bytes beyond ASCII. -/
def encodeChar (reserved : Char → Bool) (c : Char) : List Char :=
  if c.toNat < 128 && !isControl c && !reserved c then [c]
  else (String.utf8EncodeChar c).flatMap percentByte

def encodeChars (reserved : Char → Bool) (cs : List Char) : List Char :=
  cs.flatMap (encodeChar reserved)

def reservedNowhere (_ : Char) : Bool :=
  false

def reservedInFragment (c : Char) : Bool :=
  [' ', '"', '<', '>', '\x60'].contains c

def reservedInPath (c : Char) : Bool :=
  reservedInFragment c || ['#', '?', '\x7b', '\x7d'].contains c

def reservedInUser (c : Char) : Bool :=
  reservedInPath c || ['/', ':', ';', '=', '@', '[', '\\', ']', '^', '|'].contains c

def reservedInQuery (isSpecial : Bool) (c : Char) : Bool :=
  [' ', '"', '#', '<', '>'].contains c || (isSpecial && c == '\'')

/-- The bytes of a text in which `%` and two hexadecimal digits stand for one byte. -/
def decodeBytes : List Char → List UInt8
  | [] => []
  | '%' :: a :: b :: rest =>
    match Text.digitValue? 16 a, Text.digitValue? 16 b with
    | some x, some y => UInt8.ofNat (16 * x + y) :: decodeBytes rest
    | _, _ => 37 :: decodeBytes (a :: b :: rest)
  | c :: rest => String.utf8EncodeChar c ++ decodeBytes rest

/-- The percent-decoded text, if its bytes are valid UTF-8. -/
def decode? (cs : List Char) : Option (List Char) :=
  (String.fromUTF8? (decodeBytes cs).toByteArray).map String.toList

end Walkthrough.Url
