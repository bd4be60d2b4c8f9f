namespace Walkthrough.Decimal

/-- A non-negative fraction. -/
structure Fraction where
  num : Nat
  den : Nat
  deriving Repr, DecidableEq

/-- Significand and exponent of a finite value: it is `significand * 2 ^ (exponent - 1075)`. -/
structure Binary where
  significand : Nat
  exponent : Nat
  deriving Repr, DecidableEq

/-- The magnitude of the value with the given sixty-four bits. -/
def Binary.ofBits (bits : Nat) : Binary :=
  let fraction := bits % Nat.pow 2 52
  let biased := bits / Nat.pow 2 52 % 2048
  if biased == 0 then ⟨fraction, 1⟩ else ⟨Nat.pow 2 52 + fraction, biased⟩

/-- `m * 2 ^ (e - 1075)` as a fraction. -/
def scaled (m e : Nat) : Fraction :=
  if 1075 ≤ e then ⟨m * Nat.pow 2 (e - 1075), 1⟩ else ⟨m, Nat.pow 2 (1075 - e)⟩

def Binary.toFraction (b : Binary) : Fraction :=
  scaled b.significand b.exponent

/-- `num / den` to the nearest whole number, a half going to the even neighbour. -/
def roundDiv (num den : Nat) : Nat :=
  let q := num / den
  let r := num % den
  if 2 * r < den then q else if den < 2 * r then q + 1 else if q % 2 == 0 then q else q + 1

/-- A whole number of tenths, hundredths and so on, written with a point and `places` digits. -/
def placed (n places : Nat) : String :=
  if places == 0 then toString n
  else
    let digits := toString n
    let digits := String.ofList (List.replicate (places + 1 - digits.length) '0') ++ digits
    let cs := digits.toList
    String.ofList (cs.take (cs.length - places) ++ '.' :: cs.drop (cs.length - places))

/-- The fraction rounded to `places` decimals. -/
def Fraction.fixed (places : Nat) (f : Fraction) : String :=
  placed (roundDiv (f.num * Nat.pow 10 places) f.den) places

def Fraction.below (f g : Fraction) : Bool :=
  f.num * g.den < g.num * f.den

/-- `digits * 10 ^ (power - 400)` as a fraction. -/
def tenfold (digits power : Nat) : Fraction :=
  if 400 ≤ power then ⟨digits * Nat.pow 10 (power - 400), 1⟩ else ⟨digits, Nat.pow 10 (400 - power)⟩

/-- The values that round to `b` lie between these two, which count iff the significand is even. -/
def Binary.interval (b : Binary) : Fraction × Fraction :=
  let m := b.significand
  let low :=
    if m == Nat.pow 2 52 && 1 < b.exponent then scaled (4 * m - 1) b.exponent
    else scaled (4 * m - 2) b.exponent
  let high := scaled (4 * m + 2) b.exponent
  (⟨low.num, 4 * low.den⟩, ⟨high.num, 4 * high.den⟩)

def Binary.readsBack (b : Binary) (f : Fraction) : Bool :=
  let (low, high) := b.interval
  if b.significand % 2 == 0 then !f.below low && !high.below f else low.below f && f.below high

/-- The neighbour of `b` on the grid of multiples of `10 ^ (power - 400)` that reads back, the
nearer one if both do. -/
def Binary.onGrid? (b : Binary) (power : Nat) : Option Nat :=
  let v := b.toFraction
  let unit := tenfold 1 power
  let floor := v.num * unit.den / (v.den * unit.num)
  let rounded := roundDiv (v.num * unit.den) (v.den * unit.num)
  let other := if rounded == floor then floor + 1 else floor
  [rounded, other].find? fun n => 0 < n && b.readsBack (tenfold n power)

/-- Fewest digits that read back: from the coarsest grid to the finest. -/
def Binary.shortestFrom (b : Binary) : Nat → Nat × Nat
  | 0 => (0, 400)
  | power + 1 =>
    match b.onGrid? power with
    | some n => (n, power)
    | none => b.shortestFrom power

/-- The decimal text of a non-zero finite magnitude, without an exponent. -/
def Binary.shortest (b : Binary) : String :=
  if b.significand == 0 then "0"
  else
    let (n, power) := b.shortestFrom 720
    if 400 ≤ power then toString (n * Nat.pow 10 (power - 400)) else placed n (400 - power)

/-- Shortest text that reads back, in positional notation. -/
def shortestText (x : Float) : String :=
  let bits := x.toBits.toNat
  let magnitude :=
    if bits / Nat.pow 2 52 % 2048 == 2047 then if bits % Nat.pow 2 52 == 0 then "inf" else "NaN"
    else (Binary.ofBits bits).shortest
  if Nat.pow 2 63 ≤ bits && magnitude != "NaN" then "-" ++ magnitude else magnitude

/-- Text with a fixed number of decimals, rounded from the exact value. -/
def fixedText (places : Nat) (x : Float) : String :=
  let bits := x.toBits.toNat
  let magnitude :=
    if bits / Nat.pow 2 52 % 2048 == 2047 then if bits % Nat.pow 2 52 == 0 then "inf" else "NaN"
    else (Binary.ofBits bits).toFraction.fixed places
  if Nat.pow 2 63 ≤ bits && magnitude != "NaN" then "-" ++ magnitude else magnitude

end Walkthrough.Decimal
