import Walkthrough.Proofs.Phrasing.Stability

namespace Walkthrough.Phrasebook

open Phrasing Catalogue Pattern

/-- A character is there and no blank. -/
def inked (c? : Option Char) : Bool :=
  c?.any (!Text.isBlank ·)

theorem not_blank_of_inked {c? : Option Char} (h : inked c? = true) :
    ∀ x ∈ c?, Text.isBlank x = false := by
  intro x hx
  rw [Option.mem_def.mp hx] at h
  simpa [inked] using h

theorem ne_nil_of_inked {cs : List Char} (h : inked cs.head? = true) : cs ≠ [] := by
  rintro rfl
  contradiction

/-- The pattern reads digits, at least one. -/
def readsDigits : Pattern → Bool
  | many (_ + 1) _ _ (one .digit) => true
  | _ => false

theorem inked_of_readsDigits {g : Pattern} (h : readsDigits g = true) {u : List Char}
    {c d : Cursor} (hu : Reads c u d) (hg : g.Leads c d) : inked u.getLast? = true := by
  unfold readsDigits at h
  split at h
  · obtain ⟨v, hv, hleast, -, hdigits⟩ := leads_many_one_iff.mp hg
    obtain rfl := hu.text_unique hv
    have hne : u ≠ [] := List.length_pos_iff.mp (Nat.lt_of_lt_of_le (Nat.succ_pos _) hleast)
    rw [List.getLast?_eq_some_getLast hne]
    unfold inked
    rw [Option.any_some, Bool.not_eq_true']
    by_contra hblank
    have hdigit := Text.not_digit_of_isBlank (Bool.eq_true_of_not_eq_false hblank)
    exact Bool.false_ne_true (hdigit.symm.trans (hdigits _ (List.getLast_mem hne)))
  · contradiction

/-- What the phrase comes to has no blank at its ends and no line feed of its own. -/
def tidy (template : List Char) (phrase : Pattern) : Bool :=
  match form? (piecesFrom template.length template) with
  | some (.fixed words) => inked words.head? && inked words.getLast? && !words.contains '\n'
  | some (.framed before behind) =>
    inked before.head? && !before.contains '\n' && !behind.contains '\n' &&
      (phrase.body? 1).any fun g => inked behind.getLast? || (behind.isEmpty && readsDigits g)
  | none => false

set_option maxRecDepth 10000 in
theorem phrases_tidy : (patterns phraseSpelling).all (fun p => tidy p.1 p.2) = true := by
  simp only [phraseSpelling, standardPhrases, List.map_cons, List.map_nil]
  repeat rw [String.toList_ofList]
  decide +kernel

theorem fill_of_tidy {template : List Char} {phrase : Pattern} (h : tidy template phrase = true)
    {line : List Char} {m : Pattern.Match} (hm : phrase.find? line = some m) :
    Text.Trimmed (fill template m.group?) ∧ ('\n' ∉ line → '\n' ∉ fill template m.group?) := by
  unfold tidy at h
  split at h
  · rename_i words hform
    simp only [Bool.and_eq_true, Bool.not_eq_true', List.contains_eq_mem,
      decide_eq_false_iff_not] at h
    rw [fill_of_fixed hform]
    exact ⟨⟨not_blank_of_inked h.1.1, not_blank_of_inked h.1.2⟩, fun _ => h.2⟩
  · rename_i before behind hform
    simp only [Bool.and_eq_true, Bool.not_eq_true', List.contains_eq_mem, Option.any_eq_true,
      Bool.or_eq_true, List.isEmpty_iff, decide_eq_false_iff_not] at h
    obtain ⟨⟨⟨hfirst, hbefore⟩, hbehind⟩, g, hbody, hlast⟩ := h
    obtain ⟨u, c, d, hgroup, hpart, hu, hg⟩ := find?_of_body? hbody hm
    rw [fill_of_framed hform hgroup]
    have hend : inked (u ++ behind).getLast? = true := by
      obtain hlast | ⟨rfl, hdigits⟩ := hlast
      · have hne : behind ≠ [] := by
          rintro rfl
          contradiction
        rwa [List.getLast?_append_of_ne_nil _ hne]
      · rw [List.append_nil]
        exact inked_of_readsDigits hdigits hu hg
    have hne : u ++ behind ≠ [] := by
      intro hnil
      rw [hnil] at hend
      contradiction
    refine ⟨⟨not_blank_of_inked ?_, not_blank_of_inked ?_⟩, fun hline => ?_⟩
    · rwa [List.head?_append_of_ne_nil _ (ne_nil_of_inked hfirst)]
    · rwa [List.getLast?_append_of_ne_nil _ hne]
    · rw [List.mem_append, List.mem_append, not_or, not_or]
      exact ⟨hbefore, fun hmem => hline (hpart.subset hmem), hbehind⟩
  · contradiction

theorem rephrase_tidy {line : String} {r : Rephrasing} {m : Pattern.Match}
    (h : standard.applied? line = some (r, m)) :
    Text.Trimmed (standard.rephrase line).toList ∧
      ('\n' ∉ line.toList → '\n' ∉ (standard.rephrase line).toList) := by
  obtain ⟨hr, hm⟩ := mem_of_applied? h
  have hall := phrases_tidy
  simp only [patterns_phraseSpelling, List.all_eq_true, List.mem_map, forall_exists_index, and_imp,
    forall_apply_eq_imp_iff₂] at hall
  rw [rephrase_of_applied? h, toList_expand]
  exact fill_of_tidy (hall r hr) hm

theorem trimmed_canonical (raw : String) : Text.Trimmed (standard.canonical raw).toList := by
  unfold canonical
  cases happlied : standard.applied? (withoutMarker raw) with
  | none =>
    rw [rephrase_of_not_applied happlied]
    exact trimmed_withoutMarker raw
  | some a => exact (rephrase_tidy happlied).1

theorem lineFeed_not_mem_canonical {raw : String} (h : '\n' ∉ raw.toList) :
    '\n' ∉ (standard.canonical raw).toList := by
  have hmarker : '\n' ∉ (withoutMarker raw).toList := by
    rw [withoutMarker, String.toList_ofList]
    exact fun hmem => h ((withoutMarkerChars_isInfix _).subset hmem)
  unfold canonical
  cases happlied : standard.applied? (withoutMarker raw) with
  | none => rwa [rephrase_of_not_applied happlied]
  | some a => exact (rephrase_tidy happlied).2 hmarker

end Walkthrough.Phrasebook
