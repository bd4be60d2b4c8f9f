import Walkthrough.Proofs.Command.Routing
import Walkthrough.Proofs.Pattern.Framing
import Walkthrough.Proofs.Phrasing.Phrasebook
import Walkthrough.Proofs.Phrasing.Template

namespace Walkthrough

/-- Automated actions, that is, neither notes nor headings. -/
def Effect.acts : Effect → Bool
  | .act _ => true
  | .note _ | .heading => false

namespace Phrasebook

open Phrasing Catalogue

/-- What a line of the phrase comes to is a line of the command, with what the phrase captured. -/
def comesTo (template : List Char) (phrase command : Pattern) : Bool :=
  match form? (piecesFrom template.length template) with
  | some (.fixed words) => command.opens && command.closes && command.reaches words
  | some (.framed before behind) =>
    (phrase.body? 1).any fun g => command.frames 1 before behind g
  | none => false

/-- Every phrase comes to the command that its template spells, which is not one of the two named. -/
def understood (marker heading : List Char) (phrases commands : List (List Char × Pattern)) : Bool :=
  phrases.all fun p => commandWords p.1 != marker && commandWords p.1 != heading &&
    commands.any fun c => c.1 == commandWords p.1 && comesTo p.1 p.2 c.2

set_option maxRecDepth 10000 in
theorem phrases_understood : (patterns phraseSpelling).length = standardPhrases.length ∧
    understood "section marker".toList "phase heading".toList (patterns phraseSpelling)
      (patterns (spelling standardRows)) = true := by
  simp only [phraseSpelling, standardPhrases, spelling, standardRows, List.map_cons, List.map_nil]
  repeat rw [String.toList_ofList]
  decide +kernel

theorem standard_phrases : standard.map (fun r => (r.patternText, r.template)) =
    standardPhrases.map fun p => (caseless p.1, p.2) :=
  standard_phrases_of_length phrases_understood.1

set_option maxRecDepth 10000 in
theorem phrases_act : phraseSpelling.all (fun p =>
    (standardRows.map fun r => (r.1.toList, r.2.2)).all fun r =>
      r.1 != commandWords p.1 || r.2.acts) = true := by
  simp only [phraseSpelling, standardPhrases, standardRows, List.map_cons, List.map_nil]
  repeat rw [String.toList_ofList]
  decide +kernel

/-- A line of the phrase comes to a line that the pattern of the command matches. -/
theorem find?_of_comesTo {template : List Char} {phrase command : Pattern}
    (h : comesTo template phrase command = true) {line : List Char} {m : Pattern.Match}
    (hm : phrase.find? line = some m) :
    ∃ n, command.find? (fill template m.group?) = some n ∧
      (.slot ['1'] ∈ piecesFrom template.length template →
        ∃ u, m.group? 1 = some u ∧ n.group? 1 = some u ∧ 1 ∈ command.groups) := by
  unfold comesTo at h
  split at h
  · rename_i words hform
    simp only [Bool.and_eq_true] at h
    obtain ⟨⟨ho, hc⟩, hreaches⟩ := h
    rw [fill_of_fixed hform]
    obtain ⟨d, hd, -, hend⟩ := Pattern.leads_of_reaches hreaches
    obtain ⟨n, hn⟩ := Option.isSome_iff_exists.mp
      ((Pattern.occurs_iff_of_whole ho hc words).mpr ⟨d, hd, hend⟩)
    refine ⟨n, hn, fun hslot => ?_⟩
    unfold form? at hform
    split at hform <;> simp_all
  · rename_i before behind hform
    obtain ⟨g, hbody, hframes⟩ := (Option.any_eq_true _ _).mp h
    obtain ⟨u, c, d, hgroup, -, hu, hg⟩ := Pattern.find?_of_body? hbody hm
    obtain ⟨n, hn, hngroup⟩ := Pattern.find?_of_frames hframes hg hu
    rw [fill_of_framed hform hgroup]
    exact ⟨n, hn, fun _ => ⟨u, hgroup, hngroup, Pattern.mem_groups_of_frames hframes⟩⟩
  · contradiction

theorem exists_command {r : Rephrasing} (hr : r ∈ standard) :
    ∃ c ∈ Catalogue.standard, c.name = r.commandName ∧ (∃ action, c.effect = .act action) ∧
      c.name ≠ "section marker" ∧ c.name ≠ "phase heading" ∧
      comesTo r.template.toList r.pattern c.pattern = true := by
  have hall := phrases_understood.2
  rw [patterns_phraseSpelling, patterns_standardRows] at hall
  simp only [understood, List.all_eq_true, List.any_eq_true, List.mem_map, forall_exists_index,
    and_imp, forall_apply_eq_imp_iff₂, Bool.and_eq_true, beq_iff_eq, bne_iff_ne, ne_eq] at hall
  obtain ⟨⟨hmarker, hheading⟩, -, ⟨c, hc, rfl⟩, hwords, hcomes⟩ := hall r hr
  have hname : c.name = r.commandName := by
    unfold Rephrasing.commandName
    rw [← hwords, String.ofList_toList]
  rw [← hwords, String.toList_inj] at hmarker hheading
  refine ⟨c, hc, hname, ?_, hmarker, hheading, hcomes⟩
  obtain ⟨row, hrow, hrowname, heffect⟩ := row_of_mem hc
  obtain ⟨p, hp, htemplate⟩ : ∃ p ∈ standardPhrases, p.2 = r.template := by
    have hmem := List.mem_map_of_mem (f := fun r => (r.patternText, r.template)) hr
    rw [standard_phrases] at hmem
    obtain ⟨p, hp, heq⟩ := List.mem_map.mp hmem
    exact ⟨p, hp, (Prod.mk.inj heq).2⟩
  have hact := List.all_eq_true.mp (List.all_eq_true.mp phrases_act _ (List.mem_map_of_mem hp)) _
    (List.mem_map_of_mem hrow)
  rw [htemplate, ← hrowname, hwords, bne_self_eq_false, Bool.false_or, ← heffect] at hact
  cases heff : c.effect with
  | act action => exact ⟨action, rfl⟩
  | note | heading =>
    rw [heff] at hact
    exact absurd hact Bool.false_ne_true

example : standardPhrases.map (fun p => String.ofList (commandWords p.2.toList)) =
    ["open homepage", "screenshot", "open", "open", "check status", "check loadtime",
      "check console", "check missing-resources", "click each menu item", "check broken-images",
      "check broken-links", "check favicon-meta", "wait", "screenshot", "expect page to contain",
      "expect url contains", "search for", "go to cart page"] := by
  decide +kernel

theorem find?_rephrase {line : String} {r : Rephrasing} {m : Pattern.Match}
    (h : standard.applied? line = some (r, m)) :
    ∃ c args action, Catalogue.standard.find? (standard.rephrase line) = some (c, args) ∧
      c.name = r.commandName ∧ c.effect = .act action ∧
      (.slot ['1'] ∈ pieces r.template →
        ∃ u, m.group? 1 = some u ∧ args.groups[1]? = some (some (String.ofList u))) := by
  have hlist : (standard.rephrase line).toList = fill r.template.toList m.group? := by
    rw [rephrase_of_applied? h, toList_expand]
  obtain ⟨hr, hm⟩ := mem_of_applied? h
  obtain ⟨c, hc, hname, ⟨action, heffect⟩, hmarker, hheading, hcomes⟩ := exists_command hr
  obtain ⟨n, hn, hslot⟩ := find?_of_comesTo hcomes hm
  rw [← hlist] at hn
  have hfit : c.fits (standard.rephrase line) = true := Command.fits_of_find? hn
  obtain ⟨args, hargs, hfind⟩ := exists_find?_of_fits hc hmarker hheading hfit
  refine ⟨c, args, action, hfind, hname, heffect, fun hmem => ?_⟩
  obtain ⟨u, hgroup, hngroup, hone⟩ := hslot hmem
  refine ⟨u, hgroup, ?_⟩
  rw [Command.groups_of_capture? hargs hn hone, hngroup, Option.map_some]

/-- A line that a standard phrase applies to comes to a line of the command that the template
spells, which is an automated action. What the slot of the template stands for is what the command
captures first, character by character. All the standard phrases can be read. -/
theorem rephrased_understood :
    standard.map (fun r => (r.patternText, r.template)) =
      standardPhrases.map (fun p => (caseless p.1, p.2)) ∧
    ∀ (raw : String) (r : Rephrasing) (m : Pattern.Match),
      standard.applied? (withoutMarker raw) = some (r, m) →
      standard.canonical raw = expand r.template m.group? ∧
      ∃ c args action, Catalogue.standard.find? (standard.canonical raw) = some (c, args) ∧
        c.name = r.commandName ∧ c.effect = .act action ∧
        (.slot ['1'] ∈ pieces r.template →
          ∃ u, m.group? 1 = some u ∧ args.groups[1]? = some (some (String.ofList u))) :=
  ⟨standard_phrases, fun _ _ _ h => ⟨rephrase_of_applied? h, find?_rephrase h⟩⟩

/-- A list item with quotes, a dollar sign and a letter outside the alphabet in what it captures. -/
theorem rephrased_understood_quoted :
    ∃ c args action, Catalogue.standard.find?
        (standard.canonical "3) Verify page contains \"a\" $1 \"é\"") = some (c, args) ∧
      c.name = "expect page to contain" ∧ c.effect = .act action ∧
      args.groups[1]? = some (some "a\" $1 \"é") := by
  have happlied : (standard.applied? (withoutMarker "3) Verify page contains \"a\" $1 \"é\"")).map
      (fun a => (a.1.commandName, a.2.group? 1, pieces a.1.template)) =
      some ("expect page to contain", some "a\" $1 \"é".toList,
        [.literal "expect page to contain \"".toList, .slot ['1'], .literal ['"']]) := by
    decide +kernel
  obtain ⟨⟨r, m⟩, h, heq⟩ := Option.map_eq_some_iff.mp happlied
  obtain ⟨hname, hgroup, hpieces⟩ := by simpa only [Prod.mk.injEq] using heq
  obtain ⟨-, c, args, action, hfind, hcname, heffect, hcapture⟩ := rephrased_understood.2 _ r m h
  obtain ⟨u, hu, hargs⟩ := hcapture (by simp [hpieces])
  obtain rfl := Option.some.inj (hgroup.symm.trans hu)
  exact ⟨c, args, action, hfind, hcname.trans hname, heffect,
    hargs.trans (by rw [String.ofList_toList])⟩

end Phrasebook

end Walkthrough
