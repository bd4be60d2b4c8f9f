import Walkthrough.Proofs.Pattern.Groups
import Walkthrough.Proofs.Phrasing.Phrasebook
import Walkthrough.Proofs.Text.Numeral

namespace Walkthrough

namespace Phrasing

variable {template rest digits text : List Char} {ps : List Piece} {c : Char}

/-- A text that starts with a dollar sign and a digit. -/
def OpensSlot (text : List Char) : Prop :=
  ∃ d rest, text = '$' :: d :: rest ∧ Text.isDecimalDigit d = true

/-- No slot opens inside the text where `rest` follows it. -/
def IsPlain (text rest : List Char) : Prop :=
  ∀ v, v <:+ text → v ≠ [] → ¬ OpensSlot (v ++ rest)

/-- A slot takes the longest row of digits. Literal text goes on to the next slot, or to the end, and
no slot opens inside it. -/
inductive Splits : List Char → List Piece → Prop
  | nil : Splits [] []
  | slot {digits rest : List Char} {ps : List Piece} (hne : digits ≠ [])
      (hdigits : ∀ d ∈ digits, Text.isDecimalDigit d = true)
      (hend : ∀ c ∈ rest.head?, Text.isDecimalDigit c = false) (hrest : Splits rest ps) :
      Splits ('$' :: (digits ++ rest)) (.slot digits :: ps)
  | literal {text rest : List Char} {ps : List Piece} (hne : text ≠ [])
      (hplain : IsPlain text rest) (hnext : ∀ piece ∈ ps.head?, ∃ digits, piece = .slot digits)
      (hrest : Splits rest ps) :
      Splits (text ++ rest) (.literal text :: ps)

/-- The number of a slot, if it can be read: its digits are of ASCII and it has room in 64 bits. -/
def slotNumber? (digits : List Char) : Option Nat :=
  if digits.all Char.isDigit ∧ Text.denoted digits ≤ Text.maxU64 then some (Text.denoted digits)
  else none

/-- What a piece comes to in a match. Nothing stands for a number that cannot be read, for a group
that the pattern does not have and for one that took no part; group 0 is the whole match. -/
def Piece.comesTo (p : Pattern) (m : Pattern.Match) : Piece → List Char
  | literal text => text
  | slot digits =>
    ((slotNumber? digits).bind fun n => if n = 0 ∨ n ∈ p.groups then m.group? n else none).getD []

theorem takeWhile_digits (hdigits : ∀ d ∈ digits, Text.isDecimalDigit d = true)
    (hend : ∀ c ∈ rest.head?, Text.isDecimalDigit c = false) :
    (digits ++ rest).takeWhile Text.isDecimalDigit = digits := by
  have hstop : rest.takeWhile Text.isDecimalDigit = [] := by
    cases rest with
    | nil => rfl
    | cons c rest => exact List.takeWhile_cons_of_neg (by simp [hend c rfl])
  rw [List.takeWhile_append_of_pos hdigits, hstop, List.append_nil]

theorem piecesFrom_slot (hne : digits ≠ []) (hdigits : ∀ d ∈ digits, Text.isDecimalDigit d = true)
    (hend : ∀ c ∈ rest.head?, Text.isDecimalDigit c = false) (fuel : Nat) :
    piecesFrom (fuel + 1) ('$' :: (digits ++ rest)) = .slot digits :: piecesFrom fuel rest := by
  simp [piecesFrom, takeWhile_digits hdigits hend, hne]

theorem piecesFrom_plain (h : ¬ OpensSlot (c :: rest)) (fuel : Nat) :
    piecesFrom (fuel + 1) (c :: rest) = Piece.consLiteral c (piecesFrom fuel rest) := by
  rw [piecesFrom]
  refine if_neg fun hopens => h ?_
  rw [Bool.and_eq_true, beq_iff_eq] at hopens
  obtain ⟨rfl, hdigits⟩ := hopens
  cases rest with
  | nil => contradiction
  | cons d rest =>
    refine ⟨d, rest, rfl, ?_⟩
    by_contra hd
    rw [List.takeWhile_cons_of_neg hd] at hdigits
    contradiction

theorem OpensSlot.exists_slot (h : OpensSlot text) : ∃ digits rest, text = '$' :: (digits ++ rest) ∧
    digits ≠ [] ∧ (∀ d ∈ digits, Text.isDecimalDigit d = true) ∧
    ∀ c ∈ rest.head?, Text.isDecimalDigit c = false := by
  obtain ⟨d, rest, rfl, hd⟩ := h
  refine ⟨(d :: rest).takeWhile Text.isDecimalDigit, (d :: rest).dropWhile Text.isDecimalDigit,
    by rw [List.takeWhile_append_dropWhile], ?_, fun c hc => List.mem_takeWhile_imp hc, fun c hc => ?_⟩
  · rw [List.takeWhile_cons_of_pos hd]
    exact List.cons_ne_nil _ _
  · have hstop := List.head?_dropWhile_not Text.isDecimalDigit (d :: rest)
    rwa [hc] at hstop

theorem isPlain_cons_iff :
    IsPlain (c :: text) rest ↔ ¬ OpensSlot (c :: (text ++ rest)) ∧ IsPlain text rest := by
  constructor
  · intro h
    exact ⟨h _ List.suffix_rfl (List.cons_ne_nil _ _), fun v hv => h v (hv.trans (List.suffix_cons _ _))⟩
  · rintro ⟨hfirst, htext⟩ v hv hne
    obtain rfl | hv := List.suffix_cons_iff.mp hv
    · exact hfirst
    · exact htext v hv hne

theorem isPlain_nil : IsPlain [] rest :=
  fun _ hv hne => absurd (List.suffix_nil.mp hv) hne

theorem consLiteral_of_slot (hnext : ∀ piece ∈ ps.head?, ∃ digits, piece = .slot digits) :
    Piece.consLiteral c ps = .literal [c] :: ps := by
  cases ps with
  | nil => rfl
  | cons piece ps =>
    obtain ⟨digits, rfl⟩ := hnext piece rfl
    rfl

/-- A character in front of a split template that opens no slot there joins the literal text. -/
theorem Splits.consLiteral (h : Splits rest ps) (hplain : ¬ OpensSlot (c :: rest)) :
    Splits (c :: rest) (Piece.consLiteral c ps) := by
  have halone (hnext : ∀ piece ∈ ps.head?, ∃ digits, piece = .slot digits) :
      Splits (c :: rest) (Piece.consLiteral c ps) := by
    rw [consLiteral_of_slot hnext]
    exact .literal (List.cons_ne_nil c []) (isPlain_cons_iff.mpr ⟨hplain, isPlain_nil⟩) hnext h
  cases h with
  | nil => exact halone (by simp)
  | slot => exact halone (by simp)
  | literal hne htext hnext hrest =>
    exact .literal (List.cons_ne_nil c _) (isPlain_cons_iff.mpr ⟨hplain, htext⟩) hnext hrest

theorem splits_piecesFrom {fuel : Nat} (hfuel : template.length ≤ fuel) :
    Splits template (piecesFrom fuel template) := by
  induction fuel generalizing template with
  | zero =>
    rw [List.length_eq_zero_iff.mp (Nat.le_zero.mp hfuel)]
    exact .nil
  | succ fuel ih =>
    by_cases hopens : OpensSlot template
    · obtain ⟨digits, rest, rfl, hne, hdigits, hend⟩ := hopens.exists_slot
      rw [piecesFrom_slot hne hdigits hend]
      exact .slot hne hdigits hend (ih (by simp at hfuel; omega))
    · cases template with
      | nil => exact .nil
      | cons c rest =>
        rw [piecesFrom_plain hopens]
        exact (ih (Nat.le_of_succ_le_succ hfuel)).consLiteral hopens

theorem piecesFrom_literal (hne : text ≠ []) (hplain : IsPlain text rest)
    (hnext : ∀ piece ∈ ps.head?, ∃ digits, piece = .slot digits)
    (hrest : ∀ fuel, rest.length ≤ fuel → piecesFrom fuel rest = ps) {fuel : Nat}
    (hfuel : (text ++ rest).length ≤ fuel) :
    piecesFrom fuel (text ++ rest) = .literal text :: ps := by
  induction text generalizing fuel with
  | nil => exact absurd rfl hne
  | cons c text ih =>
    obtain ⟨fuel, rfl⟩ := Nat.exists_eq_succ_of_ne_zero (Nat.ne_zero_of_lt hfuel)
    obtain ⟨hfirst, htext⟩ := isPlain_cons_iff.mp hplain
    have hfuel := Nat.le_of_succ_le_succ hfuel
    rw [List.cons_append, piecesFrom_plain hfirst]
    cases text with
    | nil =>
      rw [List.nil_append, hrest fuel hfuel]
      exact consLiteral_of_slot hnext
    | cons d text =>
      rw [ih (List.cons_ne_nil d text) htext hfuel]
      rfl

theorem Splits.eq_piecesFrom (h : Splits template ps) {fuel : Nat} (hfuel : template.length ≤ fuel) :
    piecesFrom fuel template = ps := by
  induction h generalizing fuel with
  | nil => cases fuel <;> rfl
  | @slot digits rest ps hne hdigits hend _ ih =>
    obtain ⟨fuel, rfl⟩ := Nat.exists_eq_succ_of_ne_zero (Nat.ne_zero_of_lt hfuel)
    rw [piecesFrom_slot hne hdigits hend, ih (by simp at hfuel; omega)]
  | literal hne hplain hnext _ ih => exact piecesFrom_literal hne hplain hnext (fun _ => ih) hfuel

theorem splits_iff : Splits template ps ↔ ps = piecesFrom template.length template := by
  constructor
  · intro h
    exact (h.eq_piecesFrom (Nat.le_refl _)).symm
  · rintro rfl
    exact splits_piecesFrom (Nat.le_refl _)

theorem Splits.digits_of_mem (h : Splits template ps) (hslot : .slot digits ∈ ps) :
    digits ≠ [] ∧ ∀ d ∈ digits, Text.isDecimalDigit d = true := by
  induction h with
  | nil => contradiction
  | slot hne hdigits _ _ ih =>
    obtain heq | hslot := List.mem_cons.mp hslot
    · cases heq
      exact ⟨hne, hdigits⟩
    · exact ih hslot
  | literal _ _ _ _ ih =>
    obtain heq | hslot := List.mem_cons.mp hslot
    · contradiction
    · exact ih hslot

theorem natOfChars?_digits (hne : digits ≠ []) (hdigits : ∀ d ∈ digits, Text.isDecimalDigit d = true) :
    Text.natOfChars? Text.maxU64 digits = slotNumber? digits := by
  have hread : Text.nat? Text.maxU64 (String.ofList digits) = slotNumber? digits :=
    Text.nat?_of_digits hne hdigits
  rwa [Text.nat?, String.toList_ofList] at hread

theorem Splits.fill_eq (h : Splits template ps) {p : Pattern} {line : List Char} {m : Pattern.Match}
    (hm : p.find? line = some m) {piece : Piece} (hpiece : piece ∈ ps) :
    piece.fill m.group? = piece.comesTo p m := by
  cases piece with
  | literal text => rfl
  | slot digits =>
    obtain ⟨hne, hdigits⟩ := h.digits_of_mem hpiece
    rw [Piece.fill, Piece.comesTo, natOfChars?_digits hne hdigits]
    refine congrArg (Option.getD · []) (Option.bind_congr fun n _ => ?_)
    split
    · rfl
    · rename_i hnone
      obtain ⟨hzero, hmissing⟩ := not_or.mp hnone
      exact Pattern.group?_of_not_mem hzero hmissing hm

theorem Splits.expand_eq {template : String} (h : Splits template.toList ps) {p : Pattern}
    {line : List Char} {m : Pattern.Match} (hm : p.find? line = some m) :
    expand template m.group? = String.ofList (ps.flatMap (Piece.comesTo p m)) := by
  have hpieces : pieces template = ps := (splits_iff.mp h).symm
  rw [expand, hpieces]
  exact congrArg String.ofList (List.flatMap_congr fun piece hpiece => h.fill_eq hm hpiece)

end Phrasing

namespace Rephrasing

open Phrasing

/-- What a rephrasing makes of a line that it matches. Its template splits in one way into literal text
and slots, and the result is what these come to, one behind the other: the text itself, and for a slot
what the match holds for the group that all its digits denote, or nothing. What is captured is put in
as it is. -/
theorem expands_in_one_pass {pattern template : String} {r : Rephrasing}
    (hr : ofText pattern template = .ok r) {line : String} {m : Pattern.Match}
    (hm : r.pattern.find? line.toList = some m) :
    ∃ ps, (∀ qs, Splits template.toList qs ↔ qs = ps) ∧
      r.rephrase? line = some (String.ofList (ps.flatMap (Piece.comesTo r.pattern m))) := by
  refine ⟨piecesFrom template.toList.length template.toList, fun qs => splits_iff, ?_⟩
  have htemplate : r.template = template := (Phrasebook.ofText_eq_ok hr).2
  rw [rephrase?, hm, Option.map_some, htemplate, (splits_iff.mpr rfl).expand_eq hm]

/-- Captures that look like slots; slots side by side, behind a bare dollar sign and for a group that
took no part; numbers with a leading zero, of no group, of another script and too large. -/
theorem expands_in_one_pass_dollars :
    let pattern := "^(\\S+) to (\\S+)( now)?$"
    let template := "$2$01 $$1 $3|$4|$٢|$18446744073709551617$ 5"
    let slot (digits : String) : Piece := .slot digits.toList
    let text (words : String) : Piece := .literal words.toList
    let ps := [slot "2", slot "01", text " $", slot "1", text " ", slot "3", text "|", slot "4",
      text "|", slot "٢", text "|", slot "18446744073709551617", text "$ 5"]
    ∃ r m, ofText pattern template = .ok r ∧ r.pattern.find? "$2 TO $1".toList = some m ∧
      Splits template.toList ps ∧ ps.flatMap (Piece.comesTo r.pattern m) = "$1$2 $$2 |||$ 5".toList ∧
      r.rephrase? "$2 TO $1" = some "$1$2 $$2 |||$ 5" := by
  intro pattern template slot text ps
  have hrun : ((ofText pattern template).toOption.bind (·.rephrase? "$2 TO $1")) =
      some "$1$2 $$2 |||$ 5" := by
    decide +kernel
  have hsplits : Splits template.toList ps := splits_iff.mpr (by decide +kernel)
  obtain ⟨r, hread, hrephrased⟩ := Option.bind_eq_some_iff.mp hrun
  obtain ⟨m, hm, -⟩ := Option.map_eq_some_iff.mp hrephrased
  have hr : ofText pattern template = .ok r := by
    cases hcase : ofText pattern template with
    | error e =>
      rw [hcase] at hread
      cases hread
    | ok r' =>
      rw [hcase] at hread
      exact congrArg Except.ok (Option.some.inj hread)
  obtain ⟨qs, hunique, hresult⟩ := expands_in_one_pass hr hm
  obtain rfl : ps = qs := (hunique ps).mp hsplits
  refine ⟨r, m, hr, hm, hsplits, ?_, hrephrased⟩
  rw [← Option.some.inj (hresult.symm.trans hrephrased), String.toList_ofList]

end Rephrasing

end Walkthrough
