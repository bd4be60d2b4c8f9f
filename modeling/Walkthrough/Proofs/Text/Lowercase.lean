import Mathlib.Data.List.Infix
import Walkthrough.Text.Lowercase

namespace Walkthrough.Text

/-- Whether a capital sigma between the two texts, the first of them backwards, takes its final form. -/
def endsWord (before after : List Char) : Bool :=
  meetsCased before && !meetsCased after

/-- Lower case of a character between the two texts, the first of them backwards. -/
def lowerAt (before after : List Char) (c : Char) : List Char :=
  if c == 'Σ' then [if endsWord before after then 'ς' else 'σ'] else lowerChar c

/-- Lower case of the characters between `before`, read backwards, and `after`. -/
def lowerBetween (before after : List Char) : List Char → List Char
  | [] => []
  | c :: rest => lowerAt before (rest ++ after) c ++ lowerBetween (c :: before) after rest

theorem lowerFrom_cons (before : List Char) (c : Char) (rest : List Char) :
    lowerFrom before (c :: rest) = lowerAt before rest c ++ lowerFrom (c :: before) rest :=
  rfl

theorem lowerBetween_cons (before after : List Char) (c : Char) (rest : List Char) :
    lowerBetween before after (c :: rest) =
      lowerAt before (rest ++ after) c ++ lowerBetween (c :: before) after rest :=
  rfl

theorem lowerFrom_append (before cs after : List Char) : lowerFrom before (cs ++ after) =
    lowerBetween before after cs ++ lowerFrom (cs.reverse ++ before) after := by
  induction cs generalizing before with
  | nil => rfl
  | cons c rest ih =>
    rw [List.cons_append, lowerFrom_cons, ih, lowerBetween_cons, List.append_assoc, List.reverse_cons,
      List.append_assoc, List.singleton_append]

theorem lowerFrom_eq_lowerBetween (before cs : List Char) :
    lowerFrom before cs = lowerBetween before [] cs := by
  have happend := lowerFrom_append before cs []
  rwa [List.append_nil, lowerFrom, List.append_nil] at happend

theorem lowerFrom_parts (a n b : List Char) : lowerFrom [] (a ++ n ++ b) =
    lowerBetween [] (n ++ b) a ++ lowerBetween a.reverse b n ++
      lowerFrom (n.reverse ++ a.reverse) b := by
  rw [List.append_assoc, lowerFrom_append, List.append_nil, lowerFrom_append, List.append_assoc]

theorem lowerAt_eq_iff {before after before' after' : List Char} {c : Char} :
    lowerAt before after c = lowerAt before' after' c ↔
      (c = 'Σ' → endsWord before after = endsWord before' after') := by
  unfold lowerAt
  by_cases hc : c = 'Σ'
  · cases endsWord before after <;> cases endsWord before' after' <;> simp [hc]
  · simp [hc]

theorem length_lowerAt (before after before' after' : List Char) (c : Char) :
    (lowerAt before after c).length = (lowerAt before' after' c).length := by
  unfold lowerAt
  split <;> rfl

theorem lowerAt_ne_nil (before after : List Char) (c : Char) : lowerAt before after c ≠ [] := by
  unfold lowerAt lowerChar
  split
  · exact List.cons_ne_nil _ _
  · split
    · exact List.cons_ne_nil _ _
    · split <;> exact List.cons_ne_nil _ _

/-- Two contexts give the same lower case if and only if they give each sigma the same form. -/
theorem lowerBetween_eq_iff {before before' after after' cs : List Char} :
    lowerBetween before after cs = lowerBetween before' after' cs ↔
      ∀ u v, cs = u ++ 'Σ' :: v →
        endsWord (u.reverse ++ before) (v ++ after) =
          endsWord (u.reverse ++ before') (v ++ after') := by
  induction cs generalizing before before' with
  | nil => simp [lowerBetween]
  | cons c rest ih =>
    have hparts : lowerBetween before after (c :: rest) = lowerBetween before' after' (c :: rest) ↔
        lowerAt before (rest ++ after) c = lowerAt before' (rest ++ after') c ∧
          lowerBetween (c :: before) after rest = lowerBetween (c :: before') after' rest := by
      rw [lowerBetween_cons, lowerBetween_cons]
      exact ⟨fun h => List.append_inj h (length_lowerAt _ _ _ _ c), fun h => by rw [h.1, h.2]⟩
    rw [hparts, lowerAt_eq_iff, ih]
    constructor
    · rintro ⟨hfirst, hrest⟩ u v hsplit
      cases u with
      | nil =>
        obtain ⟨rfl, rfl⟩ := List.cons.inj hsplit
        exact hfirst rfl
      | cons x u =>
        obtain ⟨rfl, rfl⟩ := List.cons.inj hsplit
        simpa using hrest u v rfl
    · intro h
      refine ⟨fun hc => h [] rest (by rw [hc]; rfl), fun u v hsplit => ?_⟩
      simpa using h (c :: u) v (by rw [hsplit]; rfl)

/-- The capital sigmas of `n` take the same forms between `a` and `b` as on their own. -/
def SigmasKept (a n b : List Char) : Prop :=
  ∀ u v, n = u ++ 'Σ' :: v → endsWord (u.reverse ++ a.reverse) (v ++ b) = endsWord u.reverse v

theorem sigmasKept_iff {a n b : List Char} :
    SigmasKept a n b ↔ lowerBetween a.reverse b n = lowerFrom [] n := by
  rw [lowerFrom_eq_lowerBetween, lowerBetween_eq_iff]
  unfold SigmasKept
  simp only [List.append_nil]

theorem sigmasKept_of_not_mem {n : List Char} (h : 'Σ' ∉ n) (a b : List Char) : SigmasKept a n b := by
  rintro u v rfl
  exact absurd (by simp) h

theorem meetsCased_append {w : List Char} (h : meetsCased w = false) (u : List Char) :
    meetsCased (u ++ w) = meetsCased u := by
  unfold meetsCased at h ⊢
  rw [List.dropWhile_append]
  cases hu : u.dropWhile fun c => caseIgnorableRanges.contains c.toNat with
  | nil => exact h
  | cons c rest => rfl

/-- Texts that no letter touches, so that they are words of their own. -/
theorem sigmasKept_of_apart {a b : List Char} (ha : meetsCased a.reverse = false)
    (hb : meetsCased b = false) (n : List Char) : SigmasKept a n b := by
  intro u v _
  unfold endsWord
  rw [meetsCased_append ha, meetsCased_append hb]

theorem lowercase_ne_empty {s : String} (h : s ≠ "") : lowercase s ≠ "" := by
  unfold lowercase
  cases hs : s.toList with
  | nil => exact absurd (String.toList_eq_nil_iff.mp hs) h
  | cons c rest =>
    rw [lowerFrom_cons, ne_eq, String.ofList_eq_empty_iff, List.append_eq_nil_iff]
    exact fun hnil => lowerAt_ne_nil _ _ c hnil.1

theorem lowercase_isInfix {a n b : String} (h : SigmasKept a.toList n.toList b.toList) :
    (lowercase n).toList <:+: (lowercase (a ++ n ++ b)).toList := by
  unfold lowercase
  rw [String.toList_ofList, String.toList_ofList, String.toList_append, String.toList_append,
    lowerFrom_parts, sigmasKept_iff.mp h]
  exact ⟨_, _, rfl⟩

end Walkthrough.Text
