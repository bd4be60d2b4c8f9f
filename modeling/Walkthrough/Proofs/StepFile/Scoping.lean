import Walkthrough.Phrasing.Standard
import Walkthrough.Proofs.StepFile.Reading
import Walkthrough.Proofs.Text.Search

namespace Walkthrough

namespace Scope

/-- Where a bound is given, the numbers from the first on, at least one, up to the last. -/
def Spans (s : Scope) (number : Nat) : Prop :=
  (s.first.isSome ∨ s.last.isSome → max 1 (s.first.getD 1) ≤ number) ∧ ∀ n ∈ s.last, number ≤ n

/-- The texts in which the keyword, if there is one, is found in any case. -/
def Seeks (s : Scope) (text : String) : Prop :=
  ∀ keyword ∈ s.keyword, keyword ≠ "" →
    (Text.lowercase keyword).toList <:+: (Text.lowercase text).toList

def Admits (s : Scope) (step : Step) : Prop :=
  s.Spans step.number ∧ s.Seeks step.text

instance (s : Scope) : DecidablePred s.Spans := fun number =>
  inferInstanceAs (Decidable ((s.first.isSome ∨ s.last.isSome → max 1 (s.first.getD 1) ≤ number) ∧
    ∀ n ∈ s.last, number ≤ n))

instance (s : Scope) : DecidablePred s.Seeks := fun text =>
  inferInstanceAs (Decidable (∀ keyword ∈ s.keyword, keyword ≠ "" →
    (Text.lowercase keyword).toList <:+: (Text.lowercase text).toList))

instance (s : Scope) : DecidablePred s.Admits := fun step =>
  inferInstanceAs (Decidable (s.Spans step.number ∧ s.Seeks step.text))

/-- The entries from one to another, counted from one. It is an error to cut where these are out of
order or beyond the end. -/
def cut? (first last : Nat) (steps : List Step) : Option (List Step) :=
  if 0 < first ∧ first ≤ last + 1 ∧ last ≤ steps.length then
    some ((steps.take last).drop (first - 1))
  else none

/-- The slice, with its bounds moved to where there are steps before anything is cut. -/
def slice? (s : Scope) (steps : List Step) : Option (List Step) :=
  if s.first.isSome || s.last.isSome then
    let first := max (s.first.getD 1) 1
    let last := min (s.last.getD steps.length) steps.length
    if last < first then some [] else cut? first last steps
  else some steps

theorem slice?_eq (s : Scope) (steps : List Step) : s.slice? steps = some (s.slice steps) := by
  unfold slice? slice
  split
  · have hlength : (steps.take (s.last.getD steps.length)).length =
        min (s.last.getD steps.length) steps.length := List.length_take
    dsimp only
    split
    · next hempty =>
      rw [List.drop_eq_nil_of_le]
      omega
    · next hsome =>
      have htake : steps.take (min (s.last.getD steps.length) steps.length) =
          steps.take (s.last.getD steps.length) := by
        rw [← List.take_take, List.take_length]
      have hfirst : max (s.first.getD 1) 1 - 1 = s.first.getD 1 - 1 := by omega
      rw [cut?, if_pos (by omega), htake, hfirst]
  · rfl

theorem slice_numbered (s : Scope) (texts : List (Nat × String)) :
    s.slice (StepFile.numbered 1 texts) =
      (StepFile.numbered 1 texts).filter (fun step => s.Spans step.number) := by
  unfold slice
  split
  · next hbound =>
    rw [StepFile.take_numbered, StepFile.drop_eq_filter, ← StepFile.take_numbered,
      StepFile.take_eq_filter, List.filter_filter]
    refine List.filter_congr fun step hstep => ?_
    have hlow := StepFile.le_number hstep
    have hhigh := StepFile.number_lt hstep
    have hlength : (StepFile.numbered 1 texts).length = texts.length := by
      simp [StepFile.numbered]
    rw [Bool.or_eq_true] at hbound
    rw [Bool.eq_iff_iff]
    simp only [Bool.and_eq_true, decide_eq_true_eq, Spans, hbound, forall_const, hlength]
    cases s.last with
    | none => simp; omega
    | some n => simp; omega
  · next hfree =>
    obtain ⟨hfirst, hlast⟩ := not_or.mp (Bool.or_eq_true_iff.not.mp hfree)
    rw [Bool.not_eq_true, Option.isSome_eq_false_iff, Option.isNone_iff_eq_none] at hfirst hlast
    rw [eq_comm, List.filter_eq_self]
    intro step _
    simp [Spans, hfirst, hlast]

theorem search_eq_filter (s : Scope) (steps : List Step) :
    s.search steps = steps.filter (fun step => s.Seeks step.text) := by
  cases hkeyword : s.keyword with
  | none =>
    rw [List.filter_eq_self.mpr (by simp [Seeks, hkeyword])]
    simp [search, hkeyword]
  | some keyword =>
    by_cases hempty : keyword = ""
    · rw [List.filter_eq_self.mpr (by simp [Seeks, hkeyword, hempty])]
      simp [search, hkeyword, hempty]
    · have hsearch : s.search steps = steps.filter fun step =>
          Text.contains (Text.lowercase step.text) (Text.lowercase keyword) := by
        simp [search, hkeyword, hempty]
      rw [hsearch]
      refine List.filter_congr fun step _ => ?_
      rw [Bool.eq_iff_iff, Text.contains_iff_isInfix, decide_eq_true_iff]
      simp [Seeks, hkeyword, hempty]

end Scope

namespace StepFile

theorem load_eq_filter (book : Phrasebook) (scope : Scope) (text : String) :
    load book scope text = (load book .everything text).filter (fun step => scope.Admits step) := by
  have hload : load book scope text =
      scope.search (scope.slice (numbered 1 (worded book (instructions text)))) := rfl
  rw [hload, Scope.search_eq_filter, Scope.slice_numbered, List.filter_filter, load_everything]
  refine List.filter_congr fun step _ => ?_
  rw [Bool.and_comm, ← Bool.decide_and]
  rfl

/-- Loading with a scope gives the steps of the whole file that the scope admits, as they are and in
order, and cuts nothing that is not there. So what comes up to a number and what comes after it are
the whole file. -/
theorem load_scoped (book : Phrasebook) (scope : Scope) (text : String) :
    (scope.slice? (steps book text)).map scope.search = some (load book scope text) ∧
    load book scope text = (load book .everything text).filter (fun step => scope.Admits step) ∧
    ∀ k n, (load book .everything text).length ≤ n →
      load book (.range 1 k) text ++ load book (.range (k + 1) n) text =
        load book .everything text := by
  refine ⟨?_, load_eq_filter book scope text, fun k n hn => ?_⟩
  · rw [Scope.slice?_eq]
    rfl
  · have hbefore : load book (.range 1 k) text = (load book .everything text).take k := rfl
    have hbehind : load book (.range (k + 1) n) text =
        ((load book .everything text).take n).drop k := rfl
    rw [hbefore, hbehind, List.take_of_length_le hn, List.take_append_drop]

/-- A file of three steps, cut behind the second one, with a bound beyond the end. -/
theorem load_scoped_halves :
    (load .standard .everything "wait 1\n# rest\n- wait 2\nwait 3").length ≤ 7 ∧
      load .standard (.range 1 2) "wait 1\n# rest\n- wait 2\nwait 3" ++
          load .standard (.range 3 7) "wait 1\n# rest\n- wait 2\nwait 3" =
        load .standard .everything "wait 1\n# rest\n- wait 2\nwait 3" := by
  have hlength : (load .standard .everything "wait 1\n# rest\n- wait 2\nwait 3").length ≤ 7 := by
    decide +kernel
  exact ⟨hlength, (load_scoped .standard .everything _).2.2 2 7 hlength⟩

end StepFile

end Walkthrough
