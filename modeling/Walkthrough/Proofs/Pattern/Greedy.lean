import Mathlib.Data.List.Basic
import Walkthrough.Proofs.Pattern.Groups

namespace Walkthrough.Pattern

variable {set : CharSet}

theorem runs_one (set : CharSet) (s : State) :
    (one set).runs s = [] ∨ ∃ t, (one set).runs s = [t] ∧ s.1.position < t.1.position := by
  unfold runs
  split
  · rename_i x next hnext
    split
    · have hstep : next.position = s.1.position + 1 := (next?_eq_some hnext).2.1
      refine .inr ⟨_, rfl, ?_⟩
      show s.1.position < next.position
      omega
    · exact .inl rfl
  · exact .inl rfl

/-- The stops of rounds over one character, from the last round on, come one after the other. -/
theorem ascending_rounds (set : CharSet) (n : Nat) (s : State) :
    (rounds (one set).runs true n [] s).Pairwise (·.1.position < ·.1.position) ∧
      ∀ t ∈ rounds (one set).runs true n [] s, s.1.position ≤ t.1.position := by
  have hsingle : [s].Pairwise (·.1.position < ·.1.position) ∧
      ∀ t ∈ [s], s.1.position ≤ t.1.position := by
    refine ⟨List.pairwise_singleton _ _, fun t ht => ?_⟩
    exact Nat.le_of_eq (by rw [List.mem_singleton.mp ht])
  induction n generalizing s with
  | zero => exact hsingle
  | succ n ih =>
    have hround : rounds (one set).runs true (n + 1) [] s =
        s :: (((one set).runs s).filter (·.isBeyond s)).foldl (rounds (one set).runs true n) [] :=
      rfl
    rw [hround]
    obtain hstop | ⟨t, hstep, hbeyond⟩ := runs_one set s
    · rw [hstop]
      exact hsingle
    · have hmoved : [t].filter (·.isBeyond s) = [t] := by
        simpa [State.isBeyond] using hbeyond
      rw [hstep, hmoved, List.foldl_cons, List.foldl_nil]
      obtain ⟨hsorted, hlater⟩ := ih t ⟨List.pairwise_singleton _ _, by simp⟩
      have hall : ∀ u ∈ rounds (one set).runs true n [] t, s.1.position < u.1.position :=
        fun u hu => Nat.lt_of_lt_of_le hbeyond (hlater u hu)
      refine ⟨List.pairwise_cons.mpr ⟨hall, hsorted⟩, fun u hu => ?_⟩
      obtain rfl | hu := List.mem_cons.mp hu
      · exact Nat.le_refl _
      · exact Nat.le_of_lt (hall u hu)

/-- Greedy repetitions of one character are tried from the longest to the shortest. -/
theorem descending_greedy (set : CharSet) (s : State) :
    ((many 1 none true (one set)).runs s).Pairwise fun t u => u.1.position < t.1.position := by
  have hplus : (many 1 none true (one set)).runs s = plus (one set).runs true s :=
    List.flatMap_singleton _ s
  rw [hplus, plus, List.pairwise_reverse]
  obtain hstop | ⟨t, hstep, -⟩ := runs_one set s
  · rw [hstop]
    exact List.Pairwise.nil
  · rw [hstep]
    exact (ascending_rounds set _ t).1

/-- In the match a group with a greedy repetition ends at the last place from which the part of the
pattern behind it leads anywhere, and the rest of the match is a run of this part. -/
theorem longest_of_matchAt {p a b : Pattern} {i : Nat}
    (hcut : p.cut? i = some (a, many 1 none true (one set), b)) {c : Cursor} {m : Match}
    (hm : p.matchAt c = some m) :
    ∃ d e caps, a.Leads c d ∧ (many 1 none true (one set)).Leads d e ∧
      (m.stop, m.captures) ∈ b.runs (e, (i, d, e) :: caps) ∧
      ∀ e' f, (many 1 none true (one set)).Leads d e' → b.Leads e' f →
        e'.position ≤ e.position := by
  obtain ⟨t, hfirst, rfl⟩ := Option.map_eq_some_iff.mp hm
  rw [runs_of_cut? hcut] at hfirst
  -- The first run goes on from a run of the part before the group,
  have hbefore : (a.runs (c, [])).findSome?
      (fun u => ((seq (group i (many 1 none true (one set))) b).runs u).head?) = some t := by
    rw [← List.head?_flatMap]
    exact hfirst
  obtain ⟨u, hu, hgroup⟩ := List.exists_of_findSome?_eq_some hbefore
  -- and with the first stop of the group from which the rest has a run.
  have hrest : ((many 1 none true (one set)).runs u).findSome?
      (fun v => (b.runs (v.1, (i, u.1, v.1) :: v.2)).head?) = some t := by
    have hflat : (seq (group i (many 1 none true (one set))) b).runs u =
        ((many 1 none true (one set)).runs u).flatMap
          fun v => b.runs (v.1, (i, u.1, v.1) :: v.2) := by
      simp only [runs, List.flatMap_map]
    rw [hflat, List.head?_flatMap] at hgroup
    exact hgroup
  obtain ⟨tried, v, left, hruns, hv, hnone⟩ := List.findSome?_eq_some_iff.mp hrest
  have hleads (w : State) (hw : w ∈ (many 1 none true (one set)).runs u) :
      (many 1 none true (one set)).Leads u.1 w.1 := (runs_realizes _).of_mem hw
  refine ⟨u.1, v.1, v.2, (runs_realizes a).of_mem hu, hleads v (by simp [hruns]),
    List.mem_of_head? hv, fun e' f he' hf => ?_⟩
  obtain ⟨w, hw, rfl⟩ := (runs_realizes _ u e').mp he'
  have hsorted := descending_greedy set u
  rw [hruns] at hw hsorted
  rcases List.mem_append.mp hw with htried | hlater
  · -- What was tried before had no run of the rest.
    obtain ⟨r, hr, -⟩ := (runs_realizes b (w.1, (i, u.1, w.1) :: w.2) f).mp hf
    rw [List.head?_eq_none_iff.mp (hnone w htried)] at hr
    contradiction
  · rcases List.mem_cons.mp hlater with rfl | hleft
    · exact Nat.le_refl _
    · have hafter := (List.pairwise_append.mp hsorted).2.1
      exact Nat.le_of_lt ((List.pairwise_cons.mp hafter).1 w hleft)

end Walkthrough.Pattern
