namespace Walkthrough.Url.Punycode

def digitChar (d : Nat) : Char :=
  if d < 26 then Char.ofNat (97 + d) else Char.ofNat (22 + d)

def digitValue? (c : Char) : Option Nat :=
  let n := c.toNat
  if 97 ≤ n && n ≤ 122 then some (n - 97)
  else if 65 ≤ n && n ≤ 90 then some (n - 65)
  else if 48 ≤ n && n ≤ 57 then some (n - 22)
  else none

def threshold (k bias : Nat) : Nat :=
  if k ≤ bias + 1 then 1 else if bias + 26 ≤ k then 26 else k - bias

theorem threshold_pos (k bias : Nat) : 1 ≤ threshold k bias := by
  unfold threshold
  split
  · omega
  · split <;> omega

def shrink (delta k : Nat) : Nat × Nat :=
  if 455 < delta then shrink (delta / 35) (k + 36) else (delta, k)
termination_by delta
decreasing_by exact Nat.div_lt_self (by omega) (by omega)

def adapt (delta points : Nat) (isFirst : Bool) : Nat :=
  let d := if isFirst then delta / 700 else delta / 2
  let (d, k) := shrink (d + d / points) 0
  k + 36 * d / (d + 38)

def encodeNumber (bias k q : Nat) : List Char :=
  let t := threshold k bias
  if q < t then [digitChar q]
  else digitChar (t + (q - t) % (36 - t)) :: encodeNumber bias (k + 36) ((q - t) / (36 - t))
termination_by q
decreasing_by
  have := threshold_pos k bias
  calc (q - threshold k bias) / (36 - threshold k bias)
      ≤ q - threshold k bias := Nat.div_le_self _ _
    _ < q := by omega

structure Writing where
  out : List Char
  delta : Nat
  bias : Nat
  done : Nat

/-- Passes over one character while the code point `m` is being inserted. -/
def Writing.pass (basic m : Nat) (w : Writing) (c : Char) : Writing :=
  if c.toNat < m then { w with delta := w.delta + 1 }
  else if c.toNat == m then
    ⟨w.out ++ encodeNumber w.bias 36 w.delta, 0, adapt w.delta (w.done + 1) (w.done == basic), w.done + 1⟩
  else w

def insertPoints (text : List Char) (basic : Nat) : List Nat → Nat → Writing → Writing
  | [], _, w => w
  | m :: rest, n, w =>
    let w := { w with delta := w.delta + (m - n) * (w.done + 1) }
    let w := text.foldl (Writing.pass basic m) w
    insertPoints text basic rest (m + 1) { w with delta := w.delta + 1 }

/-- The code points beyond ASCII are inserted in increasing order, each as the distance from the one
before, in a numeral of variable length whose thresholds follow a bias. -/
def encode (text : List Char) : List Char :=
  let basic := text.filter (·.toNat < 128)
  let points := ((text.filter (128 ≤ ·.toNat)).map Char.toNat).eraseDups.mergeSort
  let w := insertPoints text basic.length points 128 ⟨[], 0, 72, basic.length⟩
  basic ++ (if basic.isEmpty then [] else ['-']) ++ w.out

/-- Reads one numeral; gives the new index and the rest. -/
def decodeNumber? (bias k index weight : Nat) : List Char → Option (Nat × List Char)
  | [] => none
  | c :: rest =>
    (digitValue? c).bind fun d =>
      let index := index + d * weight
      let t := threshold k bias
      if d < t then some (index, rest) else decodeNumber? bias (k + 36) index (weight * (36 - t)) rest

/-- Inserts the code points that the numerals of `cs` give; `fuel` bounds the insertions. -/
def decodeFrom? : Nat → Nat → Nat → Nat → List Char → List Char → Option (List Char)
  | 0, _, _, _, out, cs => if cs.isEmpty then some out else none
  | fuel + 1, n, index, bias, out, cs =>
    if cs.isEmpty then some out
    else (decodeNumber? bias 36 index 1 cs).bind fun (next, rest) =>
      let size := out.length + 1
      let bias := adapt (next - index) size (index == 0)
      let point := n + next / size
      let place := next % size
      if point.isValidChar then
        decodeFrom? fuel point (place + 1) bias
          (out.take place ++ Char.ofNat point :: out.drop place) rest
      else none

/-- Splits at the last hyphen; without one all of the text is numerals. -/
def decode? (cs : List Char) : Option (List Char) :=
  let (tail, lead) := cs.reverse.span (· != '-')
  let basic := (lead.drop 1).reverse
  let numerals := tail.reverse
  if basic.all (·.toNat < 128) then decodeFrom? cs.length 128 0 72 basic numerals else none

end Walkthrough.Url.Punycode
