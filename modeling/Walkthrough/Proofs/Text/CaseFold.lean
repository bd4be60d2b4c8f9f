import Mathlib.Tactic.Common
import Walkthrough.Text.Alphabetic
import Walkthrough.Text.Blank
import Walkthrough.Text.CaseFold

namespace Walkthrough.Text

namespace Shift

def leaves (s : Shift) (first last : Nat) : Bool :=
  last < s.first || s.last < first

def spares (s : Shift) (first last : Nat) : Bool :=
  (last : Int) < s.first + s.offset || s.last + s.offset < (first : Int)

theorem covers_bounds {s : Shift} {n : Nat} (h : s.covers n = true) :
    s.first ≤ n ∧ n ≤ s.last := by
  simp only [Shift.covers, Bool.and_eq_true, decide_eq_true_eq] at h
  exact h.1

theorem image?_eq_some {s : Shift} {n m : Nat} (h : s.image? n = some m) :
    s.covers n = true ∧ m = (n + s.offset).toNat := by
  unfold image? at h
  split at h
  · next hc => exact ⟨hc, by simpa using h.symm⟩
  · cases h

theorem covers_of_preimage? {s : Shift} {n m : Nat} (h : s.preimage? m = some n) :
    s.covers n = true := by
  simp only [preimage?] at h
  split at h
  · next hp => exact Option.some.inj h ▸ (Bool.and_eq_true_iff.mp hp).1
  · cases h

theorem not_covers_of_leaves {s : Shift} {first last n : Nat} (h : s.leaves first last = true)
    (hf : first ≤ n) (hl : n ≤ last) : ¬ s.covers n = true := by
  intro hc
  have := covers_bounds hc
  simp only [leaves, Bool.or_eq_true, decide_eq_true_eq] at h
  omega

theorem image?_ne_of_spares {s : Shift} {first last n m : Nat} (h : s.spares first last = true)
    (hpos : 0 < m) (hf : first ≤ m) (hl : m ≤ last) : s.image? n ≠ some m := by
  intro hi
  obtain ⟨hc, hm⟩ := image?_eq_some hi
  have := covers_bounds hc
  simp only [spares, Bool.or_eq_true, decide_eq_true_eq] at h
  omega

end Shift

theorem applyFirst_eq {table : List Shift} {n m : Nat} (h : Shift.applyFirst table n = m) :
    n = m ∨ ∃ s ∈ table, s.image? n = some m := by
  unfold Shift.applyFirst at h
  cases ht : table.findSome? (·.image? n) with
  | none => exact .inl (by simpa [ht] using h)
  | some k =>
    obtain ⟨s, hs, hk⟩ := List.exists_of_findSome?_eq_some ht
    exact .inr ⟨s, hs, by simpa [ht, hk] using h⟩

def staysRange (first last : Nat) : Bool :=
  (last < 65 || 90 < first) && foldShifts.all (·.leaves first last)

theorem foldCode_of_staysRange {first last n : Nat} (h : staysRange first last = true)
    (hf : first ≤ n) (hl : n ≤ last) : foldCode n = n := by
  simp only [staysRange, Bool.and_eq_true, Bool.or_eq_true, decide_eq_true_eq,
    List.all_eq_true] at h
  unfold foldCode
  split
  · rw [if_neg]
    simp only [Bool.and_eq_true, decide_eq_true_eq]
    omega
  · obtain he | ⟨s, hs, hi⟩ := applyFirst_eq (rfl : Shift.applyFirst foldShifts n = _)
    · exact he.symm
    · exact absurd (Shift.image?_eq_some hi).1 (Shift.not_covers_of_leaves (h.2 s hs) hf hl)

theorem decimalDigitRanges_stay :
    decimalDigitRanges.all (fun r => staysRange r.1 r.2) = true := by
  decide +kernel

theorem foldCase_of_contains {rs : Ranges} (hr : rs.all (fun r => staysRange r.1 r.2) = true)
    {c : Char} (h : rs.contains c.toNat = true) : foldCase c = c := by
  simp only [Ranges.contains, List.any_eq_true, Bool.and_eq_true, decide_eq_true_eq] at h
  obtain ⟨r, hrs, hf, hl⟩ := h
  rw [foldCase, foldCode_of_staysRange (List.all_eq_true.mp hr r hrs) hf hl, Char.ofNat_toNat]

theorem foldCase_of_isDecimalDigit {c : Char} (h : isDecimalDigit c = true) : foldCase c = c := by
  unfold isDecimalDigit at h
  split at h
  · next hc =>
    have hd : 48 ≤ c.toNat ∧ c.toNat ≤ 57 := by
      simpa [Char.isDigit, UInt32.le_iff_toNat_le] using h
    rw [foldCase, foldCode, if_pos hc, if_neg, Char.ofNat_toNat]
    simp only [Bool.and_eq_true, decide_eq_true_eq]
    omega
  · exact foldCase_of_contains decimalDigitRanges_stay h

/-- The code points of the range have no other case, and are none. -/
def uncasedRange (first last : Nat) : Bool :=
  0 < first && (last < 97 || 122 < first) && staysRange first last &&
    foldShifts.all (·.spares first last)

def uncased (c : Char) : Bool :=
  uncasedRange c.toNat c.toNat

section
variable {first last n : Nat} (hr : uncasedRange first last = true) (hf : first ≤ n) (hl : n ≤ last)
include hr hf hl

omit hl in
theorem pos_of_uncased : 0 < n := by
  simp only [uncasedRange, Bool.and_eq_true, decide_eq_true_eq] at hr
  omega

theorem foldCode_of_uncased : foldCode n = n := by
  simp only [uncasedRange, Bool.and_eq_true] at hr
  exact foldCode_of_staysRange hr.1.2 hf hl

theorem eq_of_foldCode_uncased {m : Nat} (h : foldCode m = n) : m = n := by
  have hpos := pos_of_uncased hr hf
  simp only [uncasedRange, Bool.and_eq_true, Bool.or_eq_true, decide_eq_true_eq,
    List.all_eq_true] at hr
  unfold foldCode at h
  split at h
  · split at h
    · next hm =>
      simp only [Bool.and_eq_true, decide_eq_true_eq] at hm
      omega
    · exact h
  · obtain he | ⟨s, hs, hi⟩ := applyFirst_eq h
    · exact he
    · exact absurd hi (Shift.image?_ne_of_spares (hr.2 s hs) hpos hf hl)

theorem eq_of_code_variant {m : Nat} (h : n = m ∨ n = foldCode m ∨
    n ∈ (if 97 ≤ foldCode m && foldCode m ≤ 122 then [foldCode m - 32] else []) ∨
    ∃ s ∈ foldShifts, s.preimage? (foldCode m) = some n) : m = n := by
  have hstay := hr
  simp only [uncasedRange, staysRange, Bool.and_eq_true, Bool.or_eq_true, decide_eq_true_eq,
    List.all_eq_true] at hstay
  obtain h | h | h | ⟨s, hs, h⟩ := h
  · exact h.symm
  · exact eq_of_foldCode_uncased hr hf hl h.symm
  · split at h
    · next hm =>
      simp only [Bool.and_eq_true, decide_eq_true_eq] at hm
      simp only [List.mem_singleton] at h
      omega
    · cases h
  · exact absurd (Shift.covers_of_preimage? h)
      (Shift.not_covers_of_leaves (hstay.1.2.2 s hs) hf hl)

theorem uncasedRange_mono : uncasedRange n n = true := by
  simp only [uncasedRange, staysRange, Shift.leaves, Shift.spares, Bool.and_eq_true,
    Bool.or_eq_true, decide_eq_true_eq, List.all_eq_true] at hr ⊢
  refine ⟨⟨⟨by omega, by omega⟩, by omega, fun s hs => ?_⟩, fun s hs => ?_⟩
  · have := hr.1.2.2 s hs
    omega
  · have := hr.2 s hs
    omega

end

theorem toNat_ofNat {n : Nat} {c : Char} (hc : 0 < c.toNat) (h : Char.ofNat n = c) :
    n = c.toNat := by
  by_cases hv : n.isValidChar
  · rw [Char.ofNat, dif_pos hv] at h
    rw [← h]
    rfl
  · rw [Char.ofNat, dif_neg hv] at h
    exact absurd (h ▸ hc) (by decide)

section
variable {c : Char} (hc : uncased c = true)
include hc

theorem uncased_pos : 0 < c.toNat :=
  pos_of_uncased hc (Nat.le_refl _)

theorem foldCase_of_uncased : foldCase c = c := by
  rw [foldCase, foldCode_of_uncased hc (Nat.le_refl _) (Nat.le_refl _), Char.ofNat_toNat]

theorem eq_of_foldCase_uncased {x : Char} (h : foldCase x = c) : x = c :=
  Char.toNat_inj.mp (eq_of_foldCode_uncased hc (Nat.le_refl _) (Nat.le_refl _)
    (toNat_ofNat (uncased_pos hc) h))

theorem eq_of_mem_caseVariants {x : Char} (h : c ∈ caseVariants x) : x = c := by
  simp only [caseVariants, List.mem_map, List.mem_cons, List.mem_append, List.mem_filterMap,
    or_assoc] at h
  obtain ⟨n, hn, hnc⟩ := h
  obtain rfl := toNat_ofNat (uncased_pos hc) hnc
  exact Char.toNat_inj.mp (eq_of_code_variant hc (Nat.le_refl _) (Nat.le_refl _) hn)

end

theorem mem_caseVariants_self (c : Char) : c ∈ caseVariants c := by
  simp [caseVariants]

theorem blankRanges_uncased : blankRanges.all (fun r => uncasedRange r.1 r.2) = true := by
  decide +kernel

theorem uncased_of_isBlank {c : Char} (h : isBlank c = true) : uncased c = true := by
  simp only [isBlank, Ranges.contains, List.any_eq_true, Bool.and_eq_true,
    decide_eq_true_eq] at h
  obtain ⟨r, hr, hf, hl⟩ := h
  exact uncasedRange_mono (List.all_eq_true.mp blankRanges_uncased r hr) hf hl

theorem blankRanges_apart : blankRanges.all (fun r => (r.2 < 48 || 57 < r.1) &&
    decimalDigitRanges.all fun d => r.2 < d.1 || d.2 < r.1) = true := by
  decide +kernel

theorem not_digit_of_isBlank {c : Char} (h : isBlank c = true) : isDecimalDigit c = false := by
  simp only [isBlank, Ranges.contains, List.any_eq_true, Bool.and_eq_true,
    decide_eq_true_eq] at h
  obtain ⟨r, hr, hf, hl⟩ := h
  have hd := List.all_eq_true.mp blankRanges_apart r hr
  simp only [Bool.and_eq_true, Bool.or_eq_true, decide_eq_true_eq, List.all_eq_true] at hd
  unfold isDecimalDigit
  split
  · simp only [Char.isDigit, Bool.and_eq_false_iff, decide_eq_false_iff_not,
      UInt32.le_iff_toNat_le]
    change ¬ 48 ≤ c.toNat ∨ ¬ c.toNat ≤ 57
    omega
  · simp only [Ranges.contains, List.any_eq_false, Bool.and_eq_true, decide_eq_true_eq]
    intro d hdm
    have := hd.2 d hdm
    omega

end Walkthrough.Text
