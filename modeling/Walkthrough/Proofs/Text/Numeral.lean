import Mathlib.Data.List.DropRight
import Mathlib.Data.Nat.Digits.Defs
import Walkthrough.Text.Alphabetic
import Walkthrough.Text.Numeral

namespace Walkthrough.Text

/-- What a decimal digit stands for: in each script the ten stand in a row, from zero on. -/
def decimalValue (c : Char) : Nat :=
  if c.toNat < 128 then c.toNat - '0'.toNat
  else (decimalDigitRanges.find? fun r => r.1 ≤ c.toNat && c.toNat ≤ r.2).elim 0 fun r =>
    (c.toNat - r.1) % 10

/-- The number that decimal digits of any script denote. -/
def denoted (digits : List Char) : Nat :=
  Nat.ofDigits 10 (digits.reverse.map decimalValue)

def lastDigits (line : String) : List Char :=
  line.toList.rtakeWhile isDecimalDigit

theorem code_of_isDigit {c : Char} (h : c.isDigit = true) : 48 ≤ c.toNat ∧ c.toNat ≤ 57 := by
  simpa [Char.isDigit, UInt32.le_iff_toNat_le] using h

theorem lt_of_isDigit {c : Char} (h : c.isDigit = true) : c.toNat < 128 :=
  Nat.lt_of_le_of_lt (code_of_isDigit h).2 (by decide)

theorem isDecimalDigit_of_isDigit {c : Char} (h : c.isDigit = true) : isDecimalDigit c = true := by
  rwa [isDecimalDigit, if_pos (lt_of_isDigit h)]

theorem isDigit_iff {c : Char} (h : isDecimalDigit c = true) : c.isDigit = true ↔ c.toNat < 128 := by
  refine ⟨lt_of_isDigit, fun hascii => ?_⟩
  rwa [isDecimalDigit, if_pos hascii] at h

theorem decimalValue_of_isDigit {c : Char} (h : c.isDigit = true) :
    decimalValue c = c.toNat - 48 :=
  if_pos (lt_of_isDigit h)

theorem decimalValue_lt {c : Char} (h : isDecimalDigit c = true) : decimalValue c < 10 := by
  by_cases hascii : c.toNat < 128
  · have hdigit := (isDigit_iff h).mpr hascii
    rw [decimalValue_of_isDigit hdigit]
    have hcode := code_of_isDigit hdigit
    omega
  · rw [decimalValue, if_neg hascii]
    cases decimalDigitRanges.find? fun r => r.1 ≤ c.toNat && c.toNat ≤ r.2 with
    | none => exact Nat.zero_lt_succ _
    | some r => exact Nat.mod_lt _ (by decide)

theorem digitValue?_ten (c : Char) :
    digitValue? 10 c = if c.isDigit then some (decimalValue c) else none := by
  by_cases hdigit : c.isDigit = true
  · have hcode := code_of_isDigit hdigit
    rw [if_pos hdigit, decimalValue_of_isDigit hdigit]
    unfold digitValue?
    dsimp only
    rw [if_pos (by simpa using hcode), Option.filter_some, if_pos (by simp; omega)]
  · rw [if_neg hdigit]
    have hcode : ¬ (48 ≤ c.toNat ∧ c.toNat ≤ 57) := by
      simpa [Char.isDigit, UInt32.le_iff_toNat_le] using hdigit
    unfold digitValue?
    simp only [Option.filter_eq_none_iff]
    intro v hv
    -- what is left stands for ten or more
    split_ifs at hv with h₁ h₂ h₃
    · exact absurd (by simpa using h₁) hcode
    · have hletter : 97 ≤ c.toNat ∧ c.toNat ≤ 102 := by simpa using h₂
      obtain rfl := Option.some.inj hv
      rw [decide_eq_true_eq]
      omega
    · have hletter : 65 ≤ c.toNat ∧ c.toNat ≤ 70 := by simpa using h₃
      obtain rfl := Option.some.inj hv
      rw [decide_eq_true_eq]
      omega

theorem denoted_cons (c : Char) (u : List Char) :
    denoted (c :: u) = decimalValue c * 10 ^ u.length + denoted u := by
  unfold denoted
  rw [List.reverse_cons, List.map_append, Nat.ofDigits_append]
  simp [Nat.mul_comm, Nat.add_comm]

theorem denoted_lt {u : List Char} (h : ∀ x ∈ u, isDecimalDigit x = true) :
    denoted u < 10 ^ u.length := by
  have hvalues : ∀ d ∈ u.reverse.map decimalValue, d < 10 := by
    intro d hd
    obtain ⟨x, hx, rfl⟩ := List.mem_map.mp hd
    exact decimalValue_lt (h x (List.mem_reverse.mp hx))
  have hlt := Nat.ofDigits_lt_base_pow_length (show 1 < 10 by decide) hvalues
  rwa [List.length_map, List.length_reverse] at hlt

theorem digitsValueFrom?_ten (acc : Nat) (u : List Char) :
    digitsValueFrom? 10 acc u =
      if u.all Char.isDigit then some (acc * 10 ^ u.length + denoted u) else none := by
  induction u generalizing acc with
  | nil => simp [digitsValueFrom?, denoted]
  | cons c u ih =>
    unfold digitsValueFrom?
    rw [digitValue?_ten, List.all_cons]
    cases c.isDigit with
    | false => rfl
    | true =>
      have hsum : (acc * 10 + decimalValue c) * 10 ^ u.length + denoted u =
          acc * 10 ^ (c :: u).length + denoted (c :: u) := by
        rw [denoted_cons, List.length_cons, Nat.pow_succ]
        ring
      rw [Bool.true_and, if_pos rfl, Option.bind_some, ih, hsum]

/-- A row of decimal digits is read as the number it denotes, if all are of ASCII and the number is
not too large, and otherwise not at all. -/
theorem nat?_of_digits {max : Nat} {u : List Char} (hne : u ≠ [])
    (h : ∀ x ∈ u, isDecimalDigit x = true) :
    nat? max (String.ofList u) =
      if u.all Char.isDigit ∧ denoted u ≤ max then some (denoted u) else none := by
  have hplus : ∀ rest, u ≠ '+' :: rest := by
    intro rest hu
    exact absurd (h '+' (hu ▸ List.mem_cons_self)) (by decide)
  have hempty : u.isEmpty = false := by simpa using hne
  unfold nat? natOfChars?
  rw [String.toList_ofList]
  split
  · exact absurd rfl (hplus _)
  · unfold digitsValue?
    dsimp only
    rw [hempty, if_neg Bool.false_ne_true, digitsValueFrom?_ten, Nat.zero_mul, Nat.zero_add]
    by_cases hascii : u.all Char.isDigit
    · simp only [hascii, if_true, true_and, Option.filter_some, decide_eq_true_eq]
    · simp [hascii]

theorem lastDigits_eq {line : String} {w u : List Char} {b : Char}
    (hline : line.toList = w ++ [b] ++ u) (hb : isDecimalDigit b = false)
    (hu : ∀ x ∈ u, isDecimalDigit x = true) : lastDigits line = u := by
  have hback : ∀ x ∈ u.reverse, isDecimalDigit x = true :=
    fun x hx => hu x (List.mem_reverse.mp hx)
  unfold lastDigits List.rtakeWhile
  rw [hline, List.reverse_append, List.takeWhile_append_of_pos hback, List.reverse_concat,
    List.takeWhile_cons_of_neg (by simp [hb]), List.append_nil, List.reverse_reverse]

end Walkthrough.Text
