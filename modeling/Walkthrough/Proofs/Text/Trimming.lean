import Mathlib.Data.List.DropRight
import Mathlib.Data.List.TakeWhile
import Walkthrough.Text.Blank

namespace Walkthrough.Text

variable {cs : List Char}

structure Trimmed (cs : List Char) : Prop where
  first : ∀ x ∈ cs.head?, isBlank x = false
  last : ∀ x ∈ cs.getLast?, isBlank x = false

theorem dropBlanks_eq_self (h : ∀ x ∈ cs.head?, isBlank x = false) : dropBlanks cs = cs := by
  cases cs with
  | nil => rfl
  | cons x cs =>
    unfold dropBlanks
    rw [List.dropWhile_cons_of_neg (by simp [h x rfl])]

theorem first_dropBlanks (cs : List Char) : ∀ x ∈ (dropBlanks cs).head?, isBlank x = false := by
  intro x hx
  have hhead := List.head?_dropWhile_not isBlank cs
  rw [show (cs.dropWhile isBlank).head? = some x from hx] at hhead
  simpa using hhead

theorem dropBlanks_append_of_blank {bs : List Char} (h : ∀ x ∈ bs, isBlank x = true)
    (cs : List Char) : dropBlanks (bs ++ cs) = dropBlanks cs :=
  List.dropWhile_append_of_pos h

theorem dropBlanksEnd_eq_rdropWhile (cs : List Char) : dropBlanksEnd cs = cs.rdropWhile isBlank :=
  rfl

theorem Trimmed.trimChars_eq (h : Trimmed cs) : trimChars cs = cs := by
  unfold trimChars
  rw [dropBlanks_eq_self h.first, dropBlanksEnd_eq_rdropWhile, List.rdropWhile_eq_self_iff]
  intro hne
  rw [Bool.not_eq_true]
  exact h.last _ (List.getLast?_eq_some_getLast hne)

theorem trimmed_trimChars (cs : List Char) : Trimmed (trimChars cs) := by
  unfold trimChars
  rw [dropBlanksEnd_eq_rdropWhile]
  constructor
  · intro x hx
    obtain ⟨rest, hrest⟩ := List.rdropWhile_prefix isBlank (dropBlanks cs)
    refine first_dropBlanks cs x ?_
    rw [← hrest, List.head?_append, hx]
    rfl
  · intro x hx
    have hne : (dropBlanks cs).rdropWhile isBlank ≠ [] := by
      intro hnil
      rw [hnil] at hx
      contradiction
    rw [List.getLast?_eq_some_getLast hne] at hx
    obtain rfl := Option.some.inj hx
    simpa using List.rdropWhile_last_not isBlank (dropBlanks cs) hne

theorem trimChars_eq_self_iff : trimChars cs = cs ↔ Trimmed cs :=
  ⟨fun h => h ▸ trimmed_trimChars cs, Trimmed.trimChars_eq⟩

theorem trim_eq_self_iff {s : String} : trim s = s ↔ Trimmed s.toList := by
  unfold trim
  rw [← trimChars_eq_self_iff, ← String.toList_inj, String.toList_ofList]

theorem trimChars_blanks_append {bs : List Char} (h : ∀ x ∈ bs, isBlank x = true)
    (cs : List Char) : trimChars (bs ++ cs) = trimChars cs := by
  unfold trimChars
  rw [dropBlanks_append_of_blank h]

theorem trimChars_append_blanks {bs : List Char} (h : ∀ x ∈ bs, isBlank x = true)
    (cs : List Char) : trimChars (cs ++ bs) = trimChars cs := by
  unfold trimChars
  rw [dropBlanksEnd_eq_rdropWhile, dropBlanksEnd_eq_rdropWhile]
  unfold dropBlanks
  rw [List.dropWhile_append]
  split
  · next hblank =>
    rw [List.isEmpty_iff.mp hblank, List.dropWhile_eq_nil_iff.mpr h]
  · rw [List.rdropWhile, List.reverse_append, List.dropWhile_append_of_pos (by simpa using h)]
    rfl

theorem trimChars_pad {left right : List Char} (hleft : ∀ x ∈ left, isBlank x = true)
    (hright : ∀ x ∈ right, isBlank x = true) (cs : List Char) :
    trimChars (left ++ cs ++ right) = trimChars cs := by
  rw [trimChars_append_blanks hright, trimChars_blanks_append hleft]

theorem dropBlanks_suffix (cs : List Char) : dropBlanks cs <:+ cs :=
  List.dropWhile_suffix isBlank

theorem trimChars_isInfix (cs : List Char) : trimChars cs <:+: cs :=
  (List.rdropWhile_prefix isBlank _).isInfix.trans (dropBlanks_suffix cs).isInfix

theorem Trimmed.append {bs : List Char} (hb : ∀ x ∈ bs.head?, isBlank x = false) (hne : bs ≠ [])
    (h : Trimmed cs) (hcs : cs ≠ []) : Trimmed (bs ++ cs) := by
  constructor
  · rwa [List.head?_append_of_ne_nil _ hne]
  · rw [List.getLast?_append_of_ne_nil _ hcs]
    exact h.last

end Walkthrough.Text
