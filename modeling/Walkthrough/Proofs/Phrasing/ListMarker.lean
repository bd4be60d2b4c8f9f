import Mathlib.Data.List.TakeDrop
import Walkthrough.Phrasing.ListMarker
import Walkthrough.Proofs.Pattern.Forms
import Walkthrough.Proofs.Text.Trimming

namespace Walkthrough.Phrasing

open Text

structure IsListNumber (digits : List Char) (mark : Char) : Prop where
  some : digits ≠ []
  digits : ∀ x ∈ digits, isDecimalDigit x = true
  mark : mark = '.' ∨ mark = ')'

theorem IsListNumber.not_digit {digits : List Char} {mark : Char} (h : IsListNumber digits mark) :
    isDecimalDigit mark = false := by
  obtain hmark | hmark := h.mark <;> rw [hmark] <;> decide

theorem dropNumber_of_number {cs digits rest : List Char} {mark : Char}
    (h : IsListNumber digits mark) (hcs : dropBlanks cs = digits ++ mark :: rest) :
    dropNumber cs = dropBlanks rest := by
  have htake : (digits ++ mark :: rest).takeWhile isDecimalDigit = digits := by
    rw [List.takeWhile_append_of_pos h.digits, List.takeWhile_cons_of_neg (by simp [h.not_digit]),
      List.append_nil]
  have hdrop : (digits ++ mark :: rest).dropWhile isDecimalDigit = mark :: rest := by
    rw [List.dropWhile_append_of_pos h.digits, List.dropWhile_cons_of_neg (by simp [h.not_digit])]
  unfold dropNumber
  rw [hcs, List.span_eq_takeWhile_dropWhile, htake, hdrop]
  dsimp only
  rw [if_pos]
  have hsome := h.some
  have hmark := h.mark
  simp_all

theorem dropNumber_cases (cs : List Char) : dropNumber cs = cs ∨
    ∃ digits mark rest, IsListNumber digits mark ∧ dropBlanks cs = digits ++ mark :: rest ∧
      dropNumber cs = dropBlanks rest := by
  by_cases h : ∃ digits mark rest, IsListNumber digits mark ∧ dropBlanks cs = digits ++ mark :: rest
  · obtain ⟨digits, mark, rest, hnumber, hcs⟩ := h
    exact .inr ⟨digits, mark, rest, hnumber, hcs, dropNumber_of_number hnumber hcs⟩
  · refine .inl ?_
    unfold dropNumber
    rw [List.span_eq_takeWhile_dropWhile]
    dsimp only
    split
    · rename_i mark rest heq
      split
      · rename_i hnumber
        refine absurd ⟨(dropBlanks cs).takeWhile isDecimalDigit, mark, rest, ⟨?_, ?_, ?_⟩, ?_⟩ h
        · simp_all
        · exact fun x hx => List.mem_takeWhile_imp hx
        · simp_all
        · rw [← heq, List.takeWhile_append_dropWhile]
      · rfl
    · rfl

theorem dropHyphen_cons (rest : List Char) : dropHyphen ('-' :: rest) = dropBlanks rest := by
  rfl

theorem dropHyphen_cases (cs : List Char) : dropHyphen cs = cs ∨
    ∃ rest, dropBlanks cs = '-' :: rest ∧ dropHyphen cs = dropBlanks rest := by
  unfold dropHyphen
  split
  · rename_i rest heq
    exact .inr ⟨rest, heq, rfl⟩
  · exact .inl rfl

theorem dropNumber_suffix (cs : List Char) : dropNumber cs <:+ cs := by
  obtain h | ⟨digits, mark, rest, -, hcs, h⟩ := dropNumber_cases cs
  · simp only [h, List.suffix_refl]
  · rw [h]
    have hrest : rest <:+ dropBlanks cs := ⟨digits ++ [mark], by simp [hcs]⟩
    exact (dropBlanks_suffix rest).trans (hrest.trans (dropBlanks_suffix cs))

theorem dropHyphen_suffix (cs : List Char) : dropHyphen cs <:+ cs := by
  obtain h | ⟨rest, hcs, h⟩ := dropHyphen_cases cs
  · simp only [h, List.suffix_refl]
  · rw [h]
    have hrest : rest <:+ dropBlanks cs := ⟨['-'], by simp [hcs]⟩
    exact (dropBlanks_suffix rest).trans (hrest.trans (dropBlanks_suffix cs))

theorem withoutMarkerChars_isInfix (cs : List Char) : withoutMarkerChars cs <:+: cs :=
  (trimChars_isInfix _).trans ((dropHyphen_suffix _).trans (dropNumber_suffix cs)).isInfix

theorem trimmed_withoutMarkerChars (cs : List Char) : Trimmed (withoutMarkerChars cs) :=
  trimmed_trimChars _

theorem trimmed_withoutMarker (line : String) : Trimmed (withoutMarker line).toList := by
  unfold withoutMarker
  rw [String.toList_ofList]
  exact trimmed_withoutMarkerChars _

open Pattern

def anything : Pattern :=
  many 0 none true (one .all)

def numberedItem : Pattern :=
  seq (many 1 none true (one .digit)) (seq (one (.union (.single '.') (.single ')'))) anything)

def bulletedItem : Pattern :=
  seq (one (.single '-')) anything

theorem leads_anything (c : Cursor) : ∃ d, anything.Leads c d ∧ d.after = [] := by
  obtain ⟨d, hd, hend⟩ := reads_of_after (c := c) (List.append_nil c.after).symm
  exact ⟨d, leads_many_one_iff.mpr ⟨_, hd, Nat.zero_le _, nofun, fun _ _ => rfl⟩, hend⟩

theorem covers_numberedItem {digits rest : List Char} {mark : Char} (h : IsListNumber digits mark) :
    numberedItem.Covers (digits ++ mark :: rest) := by
  obtain ⟨c, hc, hcafter⟩ := reads_of_after (c := .start (digits ++ mark :: rest)) rfl
  obtain ⟨d, hd, hdafter⟩ := reads_of_after (c := c) (u := [mark]) (v := rest) hcafter
  obtain ⟨e, he, hend⟩ := leads_anything d
  have hnumber : (many 1 none true (one .digit)).Leads (.start (digits ++ mark :: rest)) c :=
    leads_many_one_iff.mpr ⟨digits, hc, List.length_pos_iff.mpr h.some, nofun, h.digits⟩
  have hmark : (CharSet.union (.single '.') (.single ')')).accepts mark = true := by
    obtain hmark | hmark := h.mark <;> rw [hmark] <;> decide
  exact ⟨e, ⟨c, hnumber, d, leads_one_iff.mpr ⟨mark, hd, hmark⟩, he⟩, hend⟩

theorem covers_bulletedItem {cs : List Char} (h : cs.head? = some '-') :
    bulletedItem.Covers cs := by
  obtain ⟨rest, rfl⟩ := List.head?_eq_some_iff.mp h
  obtain ⟨d, hd, -⟩ := reads_of_after (c := .start ('-' :: rest)) (u := ['-']) (v := rest) rfl
  obtain ⟨e, he, hend⟩ := leads_anything d
  exact ⟨e, ⟨d, leads_one_iff.mpr ⟨'-', hd, rfl⟩, he⟩, hend⟩

theorem dropNumber_eq_self {cs : List Char} (htrim : Trimmed cs) (h : ¬ numberedItem.Covers cs) :
    dropNumber cs = cs := by
  obtain hsame | ⟨digits, mark, rest, hdigits, hcs, -⟩ := dropNumber_cases cs
  · exact hsame
  · rw [dropBlanks_eq_self htrim.first] at hcs
    exact absurd (hcs ▸ covers_numberedItem hdigits) h

theorem dropHyphen_eq_self {cs : List Char} (htrim : Trimmed cs) (h : cs.head? ≠ some '-') :
    dropHyphen cs = cs := by
  obtain hsame | ⟨rest, hcs, -⟩ := dropHyphen_cases cs
  · exact hsame
  · rw [dropBlanks_eq_self htrim.first] at hcs
    rw [hcs] at h
    exact absurd rfl h

theorem withoutMarker_eq_self {line : String} (htrim : Trimmed line.toList)
    (hnumbered : ¬ numberedItem.Covers line.toList)
    (hbulleted : ¬ bulletedItem.Covers line.toList) : withoutMarker line = line := by
  unfold withoutMarker withoutMarkerChars
  rw [dropNumber_eq_self htrim hnumbered,
    dropHyphen_eq_self htrim fun h => hbulleted (covers_bulletedItem h), htrim.trimChars_eq,
    String.ofList_toList]

end Walkthrough.Phrasing
