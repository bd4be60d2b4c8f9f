import Walkthrough.Phrasing.Standard
import Walkthrough.Proofs.Command.Catalogue

namespace Walkthrough.Phrasebook

open Phrasing

def applied? (book : Phrasebook) (line : String) : Option (Rephrasing × Pattern.Match) :=
  book.findSome? fun r => (r.pattern.find? line.toList).map (r, ·)

theorem rephrase_eq (book : Phrasebook) (line : String) :
    book.rephrase line =
      ((book.applied? line).map fun a => expand a.1.template a.2.group?).getD line := by
  unfold rephrase applied?
  rw [List.map_findSome?]
  congr 2
  funext r
  rw [Function.comp, Option.map_map]
  rfl

theorem rephrase_of_applied? {book : Phrasebook} {line : String} {r : Rephrasing} {m : Pattern.Match}
    (h : book.applied? line = some (r, m)) : book.rephrase line = expand r.template m.group? := by
  rw [rephrase_eq, h, Option.map_some, Option.getD_some]

theorem rephrase_of_not_applied {book : Phrasebook} {line : String}
    (h : book.applied? line = none) : book.rephrase line = line := by
  rw [rephrase_eq, h, Option.map_none, Option.getD_none]

theorem mem_of_applied? {book : Phrasebook} {line : String} {r : Rephrasing} {m : Pattern.Match}
    (h : book.applied? line = some (r, m)) : r ∈ book ∧ r.pattern.find? line.toList = some m := by
  obtain ⟨r', hr, hm⟩ := List.exists_of_findSome?_eq_some h
  obtain ⟨m', hm', heq⟩ := Option.map_eq_some_iff.mp hm
  cases heq
  exact ⟨hr, hm'⟩

/-- Templates and the texts of the patterns, in characters. -/
def phraseSpelling : Catalogue.Spelling :=
  standardPhrases.map fun p => (p.2.toList, p.1.toList)

theorem ofText_toOption (pattern template : String) :
    (Rephrasing.ofText pattern template).toOption =
      (Pattern.parseChars ("(?i)".toList ++ pattern.toList)).toOption.map
        (⟨caseless pattern, ·, template⟩) := by
  rw [Rephrasing.ofText, Pattern.parse, caseless, String.toList_append]
  cases Pattern.parseChars ("(?i)".toList ++ pattern.toList) <;> rfl

theorem patterns_phraseSpelling : Catalogue.patterns phraseSpelling =
    standard.map fun r => (r.template.toList, r.pattern) := by
  simp only [Catalogue.patterns, phraseSpelling, standard, List.filterMap_map, List.map_filterMap]
  apply List.filterMap_congr
  intro p _
  simp only [Function.comp, ofText_toOption, Option.map_map]
  rfl

theorem ofText_eq_ok {pattern template : String} {r : Rephrasing}
    (h : Rephrasing.ofText pattern template = .ok r) :
    r.patternText = caseless pattern ∧ r.template = template := by
  unfold Rephrasing.ofText at h
  cases hp : Pattern.parse (caseless pattern) with
  | error e => simp [hp, Except.map] at h
  | ok p =>
    simp only [hp, Except.map, Except.ok.injEq] at h
    exact h ▸ ⟨rfl, rfl⟩

/-- Where as many patterns can be read as there are phrases, none of them is left out. -/
theorem standard_phrases_of_length
    (h : (Catalogue.patterns phraseSpelling).length = standardPhrases.length) :
    standard.map (fun r => (r.patternText, r.template)) =
      standardPhrases.map fun p => (caseless p.1, p.2) := by
  rw [patterns_phraseSpelling, List.length_map] at h
  have hread : List.Forall₂ (fun p r => Rephrasing.ofText p.1 p.2 = .ok r) standardPhrases
      standard :=
    Catalogue.forall₂_filterMap_toOption (List.filterMap_length_eq_length.mp h)
  have heq : List.Forall₂ (· = ·) (standard.map fun r => (r.patternText, r.template))
      (standardPhrases.map fun p => (caseless p.1, p.2)) := by
    rw [List.forall₂_map_left_iff, List.forall₂_map_right_iff]
    refine hread.flip.imp fun r p hp => ?_
    obtain ⟨htext, htemplate⟩ := ofText_eq_ok hp
    rw [htext, htemplate]
  rwa [List.forall₂_eq_eq_eq] at heq

end Walkthrough.Phrasebook
