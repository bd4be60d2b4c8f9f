import Walkthrough.Text.Blank
import Walkthrough.Text.Numeral

namespace Walkthrough

/-- Seconds since the start of 1970 in universal time, and nanoseconds within the second. The
sixty-first second of a minute counts as the second before it, with a thousand million nanoseconds
more. -/
structure Timestamp where
  seconds : Int
  nanos : Nat
  deriving Repr, DecidableEq

namespace Timestamp

/-- Days from the start of 1970 to a date; months may be counted from any March on. -/
def daysOfDate (year month day : Int) : Int :=
  let year := if month ≤ 2 then year - 1 else year
  let month := if month ≤ 2 then month + 9 else month - 3
  let era := year.fdiv 400
  let yearOfEra := year - era * 400
  let dayOfYear := (153 * month + 2).fdiv 5 + day - 1
  era * 146097 + (yearOfEra * 365 + yearOfEra.fdiv 4 - yearOfEra.fdiv 100 + dayOfYear) - 719468

/-- Year, month and day of a day counted from the start of 1970. -/
def dateOfDays (days : Int) : Int × Int × Int :=
  let z := days + 719468
  let era := z.fdiv 146097
  let dayOfEra := z - era * 146097
  let yearOfEra :=
    (dayOfEra - dayOfEra.fdiv 1460 + dayOfEra.fdiv 36524 - dayOfEra.fdiv 146096).fdiv 365
  let dayOfYear := dayOfEra - (365 * yearOfEra + yearOfEra.fdiv 4 - yearOfEra.fdiv 100)
  let month := (5 * dayOfYear + 2).fdiv 153
  let day := dayOfYear - (153 * month + 2).fdiv 5 + 1
  let month := if month < 10 then month + 3 else month - 9
  (yearOfEra + era * 400 + (if month ≤ 2 then 1 else 0), month, day)

def isLeapYear (year : Int) : Bool :=
  year % 4 == 0 && (year % 100 != 0 || year % 400 == 0)

def daysInMonth (year : Int) (month : Nat) : Nat :=
  if month == 2 then if isLeapYear year then 29 else 28
  else if month == 4 || month == 6 || month == 9 || month == 11 then 30
  else 31

def millisecondsSince (t earlier : Timestamp) : Int :=
  let nanos := (t.seconds - earlier.seconds) * 1000000000 + ((t.nanos : Int) - earlier.nanos)
  nanos.tdiv 1000000

def twoDigits (n : Int) : String :=
  let s := toString n
  if s.length < 2 then "0" ++ s else s

def zeroPadded (width n : Nat) : String :=
  let s := toString n
  String.ofList (List.replicate (width - s.length) '0') ++ s

/-- A fraction of a second with as many groups of three digits as it needs. -/
def fractionText (nanos : Nat) : String :=
  if nanos == 0 then ""
  else if nanos % 1000000 == 0 then "." ++ zeroPadded 3 (nanos / 1000000)
  else if nanos % 1000 == 0 then "." ++ zeroPadded 6 (nanos / 1000)
  else "." ++ zeroPadded 9 nanos

def yearText (year : Int) : String :=
  if 0 ≤ year && year ≤ 9999 then zeroPadded 4 year.toNat
  else if 0 ≤ year then "+" ++ zeroPadded 5 year.toNat
  else "-" ++ zeroPadded 4 year.natAbs

def toText (t : Timestamp) : String :=
  let days := t.seconds.fdiv 86400
  let time := t.seconds - days * 86400
  let (year, month, day) := dateOfDays days
  let isLeap := 1000000000 ≤ t.nanos
  let second := time % 60 + (if isLeap then 1 else 0)
  yearText year ++ "-" ++ twoDigits month ++ "-" ++ twoDigits day ++ "T" ++
    twoDigits (time / 3600) ++ ":" ++ twoDigits (time / 60 % 60) ++ ":" ++ twoDigits second ++
    fractionText (if isLeap then t.nanos - 1000000000 else t.nanos) ++ "Z"

/-- A number of at most `width` digits, within bounds. -/
def number? (width least most : Nat) (cs : List Char) : Option (Nat × List Char) :=
  let cs := Text.dropBlanks cs
  let ds := (cs.take width).takeWhile Char.isDigit
  (Text.digitsValue? 10 ds).bind fun n =>
    if least ≤ n && n ≤ most then some (n, cs.drop ds.length) else none

/-- A year of at most four digits, or of any number of digits after a sign. -/
def year? (cs : List Char) : Option (Int × List Char) :=
  match Text.dropBlanks cs with
  | '-' :: rest => (number? rest.length 0 262143 rest).map fun (n, after) => (-(n : Int), after)
  | '+' :: rest => (number? rest.length 0 262142 rest).map fun (n, after) => ((n : Int), after)
  | rest => (number? 4 0 9999 rest).map fun (n, after) => ((n : Int), after)

def char? (allowed : List Char) : List Char → Option (List Char)
  | c :: rest => if allowed.contains c then some rest else none
  | [] => none

/-- A separator, with or without blanks before it. -/
def separator? (c : Char) (cs : List Char) : Option (List Char) :=
  char? [c] (Text.dropBlanks cs)

/-- A fraction after its point, in nanoseconds; further digits are left out. -/
def fraction? : List Char → Option (Nat × List Char)
  | '.' :: rest =>
    let (ds, after) := rest.span Char.isDigit
    (Text.digitsValue? 10 ((ds ++ List.replicate (9 - ds.length) '0').take 9)).bind fun n =>
      if ds.isEmpty then none else some (n, after)
  | cs => some (0, cs)

def pair? (most : Nat) (cs : List Char) : Option (Nat × List Char) :=
  if (cs.take 2).length < 2 then none
  else (Text.digitsValue? 10 (cs.take 2)).bind fun n => if n ≤ most then some (n, cs.drop 2) else none

def isOffsetGap (c : Char) : Bool :=
  c == ':' || Text.isBlank c

/-- Whether a text begins with the letters `UTC`, in any case. -/
def saysUniversal (cs : List Char) : Bool :=
  (cs.take 3).map Char.toLower == ['u', 't', 'c']

/-- An offset from universal time in seconds, of less than a day. -/
def offset? (cs : List Char) : Option (Int × List Char) :=
  if saysUniversal cs then some (0, cs.drop 3)
  else match cs with
  | 'Z' :: rest | 'z' :: rest => some (0, rest)
  | sign :: rest => do
    let negative ← if sign == '+' then some false
      else if sign == '-' || sign == '\u2212' then some true
      else none
    let (hours, rest) ← pair? 99 rest
    let (minutes, rest) ← pair? 59 (rest.dropWhile isOffsetGap)
    let seconds : Int := hours * 3600 + minutes * 60
    if 86400 ≤ seconds then none
    else return (if negative then -seconds else seconds, rest)
  | [] => none

/-- Date, time and offset, as in `2024-01-02T03:04:05.250Z`. Numbers may have fewer digits than
usual, and blanks may stand before them. -/
def parse? (s : String) : Option Timestamp := do
  let (year, cs) ← year? s.toList
  let (month, cs) ← number? 2 1 12 (← separator? '-' cs)
  let (day, cs) ← number? 2 1 (daysInMonth year month) (← separator? '-' cs)
  let (hour, cs) ← number? 2 0 23 (← char? ['T', 't', ' '] cs)
  let (minute, cs) ← number? 2 0 59 (← separator? ':' cs)
  let (second, cs) ← number? 2 0 60 (← separator? ':' cs)
  let (nanos, cs) ← fraction? cs
  let (offset, cs) ← offset? (Text.dropBlanks cs)
  if !cs.all Text.isBlank then none
  let wall : Int := daysOfDate year month day * 86400 + hour * 3600 + minute * 60 + min second 59
  return ⟨wall - offset, if second == 60 then nanos + 1000000000 else nanos⟩

end Timestamp

end Walkthrough
