import Mathlib.Data.List.Basic
import Walkthrough.Text.Lines

namespace Walkthrough.Text

theorem finishLine_subset (back : List Char) : finishLine back ⊆ back := by
  unfold finishLine
  split
  · exact fun x hx => List.mem_cons_of_mem _ (List.mem_reverse.mp hx)
  · exact fun x hx => List.mem_reverse.mp hx

theorem lineFeed_not_mem_linesFrom {back cs l : List Char} (hback : '\n' ∉ back)
    (hl : l ∈ linesFrom back cs) : '\n' ∉ l := by
  induction cs generalizing back with
  | nil =>
    unfold linesFrom at hl
    split at hl
    · contradiction
    · rw [List.mem_singleton.mp hl, List.mem_reverse]
      exact hback
  | cons c rest ih =>
    unfold linesFrom at hl
    split at hl
    · obtain rfl | hl := List.mem_cons.mp hl
      · exact fun hm => hback (finishLine_subset back hm)
      · exact ih (by simp) hl
    · rename_i hc
      refine ih ?_ hl
      rw [List.mem_cons, not_or]
      exact ⟨fun he => hc (beq_iff_eq.mpr he.symm), hback⟩

theorem lineFeed_not_mem_lines {s line : String} (h : line ∈ lines s) : '\n' ∉ line.toList := by
  obtain ⟨l, hl, rfl⟩ := List.mem_map.mp h
  rw [String.toList_ofList]
  exact lineFeed_not_mem_linesFrom (by simp) hl

/-- The characters make up a line: there is no line feed in it, and no carriage return at its end. -/
structure IsLine (l : List Char) : Prop where
  lineFeed : '\n' ∉ l
  carriageReturn : l.getLast? ≠ some '\r'

theorem linesFrom_append {l : List Char} (h : '\n' ∉ l) (back rest : List Char) :
    linesFrom back (l ++ '\n' :: rest) = finishLine (l.reverse ++ back) :: linesFrom [] rest := by
  induction l generalizing back with
  | nil => simp [linesFrom]
  | cons c l ih =>
    obtain ⟨hc, hl⟩ := not_or.mp (List.mem_cons.not.mp h)
    rw [List.cons_append, linesFrom, if_neg (by simpa using fun he => hc he.symm), ih hl]
    simp

theorem linesFrom_of_not_mem {l : List Char} (h : '\n' ∉ l) :
    linesFrom [] l = if l = [] then [] else [l] := by
  have hread (back : List Char) : linesFrom back l = linesFrom (l.reverse ++ back) [] := by
    induction l generalizing back with
    | nil => rfl
    | cons c l ih =>
      obtain ⟨hc, hl⟩ := not_or.mp (List.mem_cons.not.mp h)
      have hstep : linesFrom back (c :: l) = linesFrom (c :: back) l :=
        if_neg (by simpa using fun he => hc he.symm)
      rw [hstep, ih hl, List.reverse_cons, List.append_assoc, List.singleton_append]
  rw [hread, List.append_nil, linesFrom]
  simp

theorem finishLine_reverse {l : List Char} (h : l.getLast? ≠ some '\r') :
    finishLine l.reverse = l := by
  unfold finishLine
  split
  · rename_i back heq
    rw [List.reverse_eq_iff] at heq
    rw [heq] at h
    simp at h
  · exact List.reverse_reverse l

theorem linesFrom_flatMap {ls : List (List Char)} (h : ∀ l ∈ ls, IsLine l) :
    linesFrom [] (ls.flatMap (· ++ ['\n'])) = ls := by
  induction ls with
  | nil => rfl
  | cons l ls ih =>
    obtain ⟨hl, hls⟩ := List.forall_mem_cons.mp h
    have hsplit : (l :: ls).flatMap (· ++ ['\n']) = l ++ '\n' :: ls.flatMap (· ++ ['\n']) := by
      simp
    rw [hsplit, linesFrom_append hl.lineFeed, List.append_nil, finishLine_reverse hl.carriageReturn,
      ih hls]

end Walkthrough.Text
