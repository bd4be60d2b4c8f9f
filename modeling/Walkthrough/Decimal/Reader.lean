import Walkthrough.Text.Numeral

namespace Walkthrough.Decimal

open Text

/-- `digits * 10 ^ exponent`; beyond the range of finite values the result is infinite or zero. -/
def nearest (digits : Nat) (exponent : Int) : Float :=
  let size : Int := (toString digits).length
  if digits == 0 || size + exponent < -330 then 0.0
  else if 310 < size + exponent then 1.0 / 0.0
  else Float.ofScientific digits (exponent < 0) exponent.natAbs

/-- The exponent after the letter `e`. -/
def exponent? : List Char → Option Int
  | '-' :: rest => (digitsValue? 10 rest).map fun n => -(n : Int)
  | '+' :: rest => (digitsValue? 10 rest).map fun n => (n : Int)
  | rest => (digitsValue? 10 rest).map fun n => (n : Int)

/-- Digits with at most one point, then an optional exponent. -/
def magnitude? (cs : List Char) : Option Float :=
  let (mantissa, tail) := cs.span fun c => c != 'e' && c != 'E'
  let (whole, fraction) := mantissa.span (· != '.')
  let fraction := fraction.drop 1
  if whole.isEmpty && fraction.isEmpty then none
  else (digitsValue? 10 (whole ++ fraction)).bind fun digits =>
    match tail with
    | [] => some (nearest digits (-(fraction.length : Int)))
    | _ :: e => (exponent? e).map fun x => nearest digits (x - fraction.length)

/-- A number in decimal notation, or the words `inf`, `infinity` and `nan` in any case. -/
def float? (s : String) : Option Float :=
  let signed := match s.toList with
    | '-' :: rest => (true, rest)
    | '+' :: rest => (false, rest)
    | cs => (false, cs)
  let word := String.ofList (signed.2.map Char.toLower)
  let magnitude :=
    if word == "inf" || word == "infinity" then some (1.0 / 0.0)
    else if word == "nan" then some (0.0 / 0.0)
    else magnitude? signed.2
  magnitude.map fun x => if signed.1 then -x else x

end Walkthrough.Decimal
