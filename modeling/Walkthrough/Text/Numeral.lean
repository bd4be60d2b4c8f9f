namespace Walkthrough.Text

/-- The value of a digit in a base of at most sixteen; either case. -/
def digitValue? (base : Nat) (c : Char) : Option Nat :=
  let n := c.toNat
  let v :=
    if 48 ≤ n && n ≤ 57 then some (n - 48)
    else if 97 ≤ n && n ≤ 102 then some (n - 87)
    else if 65 ≤ n && n ≤ 70 then some (n - 55)
    else none
  v.filter (· < base)

def digitsValueFrom? (base : Nat) (acc : Nat) : List Char → Option Nat
  | [] => some acc
  | c :: rest => (digitValue? base c).bind fun d => digitsValueFrom? base (acc * base + d) rest

def digitsValue? (base : Nat) (cs : List Char) : Option Nat :=
  if cs.isEmpty then none else digitsValueFrom? base 0 cs

/-- An unsigned number in ASCII digits, at most `max`; a leading plus sign is allowed. -/
def natOfChars? (max : Nat) (cs : List Char) : Option Nat :=
  let digits := match cs with
    | '+' :: rest => rest
    | _ => cs
  (digitsValue? 10 digits).filter (· ≤ max)

def nat? (max : Nat) (s : String) : Option Nat :=
  natOfChars? max s.toList

def maxU16 : Nat := Nat.pow 2 16 - 1
def maxU32 : Nat := Nat.pow 2 32 - 1
def maxU64 : Nat := Nat.pow 2 64 - 1

def spaces (count : Nat) : String :=
  String.ofList (List.replicate count ' ')

def padLeft (width : Nat) (s : String) : String :=
  spaces (width - s.length) ++ s

def padRight (width : Nat) (s : String) : String :=
  s ++ spaces (width - s.length)

end Walkthrough.Text
