import Mathlib.Data.List.Infix
import Walkthrough.Text.Search

namespace Walkthrough.Text

theorem occursIn_iff_isInfix {needle hay : List Char} : occursIn needle hay = true ↔ needle <:+: hay := by
  induction hay with
  | nil => simp [occursIn]
  | cons c rest ih =>
    rw [occursIn, Bool.or_eq_true, ih, List.isPrefixOf_iff_prefix, List.infix_cons_iff]

theorem contains_iff_isInfix {hay needle : String} :
    contains hay needle = true ↔ needle.toList <:+: hay.toList :=
  occursIn_iff_isInfix

variable {sep : Char}

theorem splitAt_ne_nil (cs : List Char) : splitAt sep cs ≠ [] := by
  cases cs with
  | nil => exact List.cons_ne_nil _ _
  | cons c rest =>
    unfold splitAt
    split
    · exact List.cons_ne_nil _ _
    · split <;> exact List.cons_ne_nil _ _

theorem splitAt_cons_self (rest : List Char) : splitAt sep (sep :: rest) = [] :: splitAt sep rest := by
  have hne : splitAt sep rest ≠ [] := splitAt_ne_nil rest
  obtain ⟨part, parts, hrest⟩ := List.exists_cons_of_ne_nil hne
  simp [splitAt, hrest]

theorem splitAt_of_not_mem {l : List Char} (h : sep ∉ l) : splitAt sep l = [l] := by
  induction l with
  | nil => rfl
  | cons c l ih =>
    obtain ⟨hc, hl⟩ := not_or.mp (List.mem_cons.not.mp h)
    simp [splitAt, ih hl, Ne.symm hc]

theorem splitAt_append {l : List Char} (h : sep ∉ l) (rest : List Char) :
    splitAt sep (l ++ sep :: rest) = l :: splitAt sep rest := by
  induction l with
  | nil => exact splitAt_cons_self rest
  | cons c l ih =>
    obtain ⟨hc, hl⟩ := not_or.mp (List.mem_cons.not.mp h)
    simp [splitAt, ih hl, Ne.symm hc]

theorem splitAt_flatMap {parts : List (List Char)} (h : ∀ l ∈ parts, sep ∉ l) :
    splitAt sep (parts.flatMap (· ++ [sep])) = parts ++ [[]] := by
  induction parts with
  | nil => rfl
  | cons l parts ih =>
    obtain ⟨hl, hparts⟩ := List.forall_mem_cons.mp h
    have hcons : (l :: parts).flatMap (· ++ [sep]) = l ++ sep :: parts.flatMap (· ++ [sep]) := by
      simp
    rw [hcons, splitAt_append hl, ih hparts, List.cons_append]

theorem splitAt_intercalate {parts : List (List Char)} (hne : parts ≠ [])
    (h : ∀ l ∈ parts, sep ∉ l) : splitAt sep ([sep].intercalate parts) = parts := by
  induction parts with
  | nil => exact absurd rfl hne
  | cons l parts ih =>
    obtain ⟨hl, hparts⟩ := List.forall_mem_cons.mp h
    cases parts with
    | nil => rw [List.intercalate_singleton, splitAt_of_not_mem hl]
    | cons l' parts =>
      rw [List.intercalate_cons_cons, List.append_assoc, List.singleton_append, splitAt_append hl,
        ih (List.cons_ne_nil _ _) hparts]

theorem exists_parts (sep : Char) (cs : List Char) : ∃ parts : List (List Char),
    parts ≠ [] ∧ (∀ l ∈ parts, sep ∉ l) ∧ cs = [sep].intercalate parts := by
  induction cs with
  | nil => exact ⟨[[]], by simp, by simp, by simp⟩
  | cons c rest ih =>
    obtain ⟨parts, hne, hparts, rfl⟩ := ih
    by_cases hc : c = sep
    · refine ⟨[] :: parts, by simp, by simpa using hparts, ?_⟩
      rw [List.intercalate_cons_of_ne_nil hne, hc]
      rfl
    · obtain ⟨l, parts, rfl⟩ := List.exists_cons_of_ne_nil hne
      refine ⟨(c :: l) :: parts, List.cons_ne_nil _ _, ?_, ?_⟩
      · simpa [Ne.symm hc] using hparts
      · cases parts <;> simp [List.intercalate_cons_cons]

theorem not_mem_of_mem_splitAt {cs l : List Char} (h : l ∈ splitAt sep cs) : sep ∉ l := by
  obtain ⟨parts, hne, hparts, rfl⟩ := exists_parts sep cs
  rw [splitAt_intercalate hne hparts] at h
  exact hparts l h

end Walkthrough.Text
