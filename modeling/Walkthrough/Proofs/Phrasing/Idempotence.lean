import Walkthrough.Proofs.Phrasing.Wording

namespace Walkthrough.Phrasebook

open Phrasing Catalogue Pattern

def unmarked (phrases : List (List Char × Pattern)) : Bool :=
  Track.parted 60 ((true, [numberedItem]) :: (true, [bulletedItem]) ::
    phrases.map fun p => (false, [p.2]))

set_option maxRecDepth 10000 in
theorem phrases_unmarked : unmarked (patterns phraseSpelling) = true := by
  simp only [phraseSpelling, standardPhrases, List.map_cons, List.map_nil]
  repeat rw [String.toList_ofList]
  decide +kernel

section
variable {line : String} {a : Rephrasing × Pattern.Match}
  (happlied : standard.applied? line = some a)
include happlied

theorem not_covers_of_applied? {item : Pattern} (hitem : item = numberedItem ∨ item = bulletedItem) :
    ¬ item.Covers line.toList := by
  have hunmarked := phrases_unmarked
  rw [patterns_phraseSpelling, unmarked, List.map_map] at hunmarked
  refine Track.not_covers_of_parted hunmarked Bool.noConfusion (i := true) (j := false) ?_ ?_
    (covers_of_applied? happlied)
  · obtain rfl | rfl := hitem
    · exact List.mem_cons_self
    · exact List.mem_cons_of_mem _ List.mem_cons_self
  · exact List.mem_cons_of_mem _ (List.mem_cons_of_mem _
      (List.mem_map_of_mem (mem_of_applied? happlied).1))

theorem withoutMarker_of_applied? (htrim : Text.Trimmed line.toList) : withoutMarker line = line :=
  withoutMarker_eq_self htrim (not_covers_of_applied? happlied (.inl rfl))
    (not_covers_of_applied? happlied (.inr rfl))

/-- What a phrase has come to is a command, and the whole reading leaves that alone. -/
theorem canonical_rephrase : standard.canonical (standard.rephrase line) = standard.rephrase line := by
  rw [canonical_eq_rephrase (knows_rephrase happlied) (rephrase_tidy happlied).1, rephrase_rephrase]

theorem withoutMarker_rephrase :
    withoutMarker (standard.rephrase line) = standard.rephrase line :=
  withoutMarker_of_known (knows_rephrase happlied) (rephrase_tidy happlied).1

end

/-- A line that no phrase applies to stays under a second reading only if it has no marker left: what
a phrase makes of the rest is a command, and commands have none. -/
theorem canonical_eq_self_iff {line : String} (h : standard.applied? line = none) :
    standard.canonical line = line ↔ withoutMarker line = line := by
  constructor
  · intro hsame
    have hrephrase : standard.rephrase (withoutMarker line) = line := hsame
    cases happlied : standard.applied? (withoutMarker line) with
    | none => exact (rephrase_of_not_applied happlied).symm.trans hrephrase
    | some a =>
      rw [← hrephrase]
      exact withoutMarker_rephrase happlied
  · intro hsame
    unfold canonical
    rw [hsame, rephrase_of_not_applied h]

/-- Reading a canonical line again changes nothing if and only if the raw line has no second marker
behind its first one. In particular the second reading leaves alone what a phrase has come to. -/
theorem canonical_canonical_iff (raw : String) :
    (standard.canonical (standard.canonical raw) = standard.canonical raw ↔
      withoutMarker (withoutMarker raw) = withoutMarker raw) ∧
    ((standard.applied? (withoutMarker raw)).isSome = true →
      standard.canonical (standard.canonical raw) = standard.canonical raw) := by
  have hcanonical : standard.canonical raw = standard.rephrase (withoutMarker raw) := rfl
  cases happlied : standard.applied? (withoutMarker raw) with
  | none =>
    rw [hcanonical, rephrase_of_not_applied happlied]
    exact ⟨canonical_eq_self_iff happlied, fun h => absurd h Bool.false_ne_true⟩
  | some a =>
    have hfixed := canonical_rephrase happlied
    have hunmarked := withoutMarker_of_applied? happlied (trimmed_withoutMarker raw)
    exact ⟨iff_of_true hfixed hunmarked, fun _ => hfixed⟩

/-- A phrase in a list, and the same phrase behind two markers, where it is found only by the second
reading. -/
theorem canonical_canonical_iff_listed :
    (standard.applied? (withoutMarker "2) Wait 250 ms")).isSome = true ∧
      standard.canonical (standard.canonical "2) Wait 250 ms") =
        standard.canonical "2) Wait 250 ms" ∧
      standard.canonical (standard.canonical "1. 2) Wait 250 ms") ≠
        standard.canonical "1. 2) Wait 250 ms" := by
  have happlied : (standard.applied? (withoutMarker "2) Wait 250 ms")).isSome = true := by
    decide +kernel
  refine ⟨happlied, (canonical_canonical_iff _).2 happlied, fun h => ?_⟩
  exact absurd ((canonical_canonical_iff _).1.mp h) (by decide +kernel)

end Walkthrough.Phrasebook
