import Walkthrough.Proofs.Phrasing.ListMarker
import Walkthrough.Proofs.Phrasing.Understood

namespace Walkthrough.Phrasebook

open Phrasing Catalogue Pattern

def menuWords : List Char :=
  "click each menu item".toList

/-- The words of the command for the menu in any case. -/
def menuPattern : Pattern :=
  seq (anchor .textStart) (spelled menuWords (anchor .textEnd))

/-- No line of a command is a list item or a line of a phrase, but for the phrase and the command for
the menu, which have the same pattern. -/
def keepsApart (phrases commands : List (List Char × Pattern)) : Bool :=
  Track.parted 60 ((true, [numberedItem]) :: (true, [bulletedItem]) ::
    ((phrases.filter (·.1 != menuWords)).map fun p => (true, [p.2])) ++
      commands.map fun c => (false, [c.2])) &&
  phrases.all (fun p => p.2.opens && p.2.closes && (p.1 != menuWords || p.2 == menuPattern) &&
    (commandWords p.1 != menuWords || p.1 == menuWords)) &&
  commands.any fun c => c.1 == menuWords && c.2 == menuPattern

set_option maxRecDepth 10000 in
theorem phrases_keepApart :
    keepsApart (patterns phraseSpelling) (patterns (spelling standardRows)) = true := by
  simp only [phraseSpelling, standardPhrases, spelling, standardRows, List.map_cons, List.map_nil]
  repeat rw [String.toList_ofList]
  decide +kernel

theorem standard_keepsApart : keepsApart (standard.map fun r => (r.template.toList, r.pattern))
    (Catalogue.standard.map fun c => (c.name.toList, c.pattern)) = true :=
  patterns_phraseSpelling ▸ patterns_standardRows ▸ phrases_keepApart

theorem phrase_of_mem {r : Rephrasing} (hr : r ∈ standard) :
    r.pattern.opens = true ∧ r.pattern.closes = true ∧
      (r.template.toList = menuWords → r.pattern = menuPattern) ∧
      (commandWords r.template.toList = menuWords → r.template.toList = menuWords) := by
  have hall := standard_keepsApart
  simp only [keepsApart, Bool.and_eq_true, List.all_eq_true, List.mem_map, forall_exists_index,
    and_imp, forall_apply_eq_imp_iff₂, Bool.or_eq_true, bne_iff_ne, ne_eq, beq_iff_eq] at hall
  obtain ⟨⟨⟨ho, hc⟩, hpattern⟩, htemplate⟩ := hall.1.2 r hr
  exact ⟨ho, hc, fun h => hpattern.resolve_left (not_not.mpr h),
    fun h => htemplate.resolve_left (not_not.mpr h)⟩

theorem covers_of_applied? {line : String} {a : Rephrasing × Pattern.Match}
    (h : standard.applied? line = some a) : a.1.pattern.Covers line.toList := by
  obtain ⟨hr, hm⟩ := mem_of_applied? h
  obtain ⟨ho, hc, -⟩ := phrase_of_mem hr
  exact (occurs_iff_of_whole ho hc _).mp (Option.isSome_iff_exists.mpr ⟨a.2, hm⟩)

section
variable {line : String} (hknown : Catalogue.standard.knows line = true)
include hknown

theorem not_covers_of_known {p : Pattern}
    (hp : p = numberedItem ∨ p = bulletedItem ∨ ∃ r ∈ standard, r.template.toList ≠ menuWords ∧
      p = r.pattern) : ¬ p.Covers line.toList := by
  obtain ⟨c, hc, hfit⟩ := List.any_eq_true.mp hknown
  have hparted := standard_keepsApart
  simp only [keepsApart, Bool.and_eq_true] at hparted
  refine Track.not_covers_of_parted hparted.1.1 Bool.noConfusion (i := true) (j := false) ?_ ?_
    ((fits_iff hc line).mp hfit)
  · obtain rfl | rfl | ⟨r, hr, hmenu, rfl⟩ := hp
    · exact List.mem_cons_self
    · exact List.mem_cons_of_mem _ List.mem_cons_self
    · refine List.mem_cons_of_mem _ (List.mem_cons_of_mem _ (List.mem_append_left _ ?_))
      refine List.mem_map_of_mem (f := fun p => (true, [p.2])) (List.mem_filter.mpr
        ⟨List.mem_map_of_mem (f := fun r => (r.template.toList, r.pattern)) hr, ?_⟩)
      exact bne_iff_ne.mpr hmenu
  · exact List.mem_append_right _ (List.mem_map_of_mem (f := fun c => (false, [c.2]))
      (List.mem_map_of_mem (f := fun c => (c.name.toList, c.pattern)) hc))

theorem first_ne_hyphen_of_known : line.toList.head? ≠ some '-' := fun h =>
  not_covers_of_known hknown (.inr (.inl rfl)) (covers_bulletedItem h)

theorem withoutMarker_of_known (htrim : Text.Trimmed line.toList) : withoutMarker line = line :=
  withoutMarker_eq_self htrim (not_covers_of_known hknown (.inl rfl))
    (not_covers_of_known hknown (.inr (.inl rfl)))

/-- The only phrase that applies to a known line is the one for the menu. -/
theorem menu_of_applied? {r : Rephrasing} {m : Pattern.Match}
    (h : standard.applied? line = some (r, m)) :
    r.template.toList = menuWords ∧ menuPattern.Covers line.toList := by
  have hr := (mem_of_applied? h).1
  have hcovers := covers_of_applied? h
  have htemplate : r.template.toList = menuWords := by
    by_contra hne
    exact not_covers_of_known hknown (.inr (.inr ⟨r, hr, hne, rfl⟩)) hcovers
  exact ⟨htemplate, (phrase_of_mem hr).2.2.1 htemplate ▸ hcovers⟩

end

theorem exists_menuCommand : ∃ c ∈ Catalogue.standard, c.name = "click each menu item" ∧
    c.pattern = menuPattern := by
  have hany := standard_keepsApart
  simp only [keepsApart, Bool.and_eq_true, List.any_eq_true, List.mem_map, beq_iff_eq] at hany
  obtain ⟨-, -, ⟨c, hc, rfl⟩, hname, hpattern⟩ := hany
  exact ⟨c, hc, String.toList_inj.mp hname, hpattern⟩

theorem find?_of_covers_menu {line : String} (h : menuPattern.Covers line.toList) :
    ∃ c args, Catalogue.standard.find? line = some (c, args) ∧ c.name = "click each menu item" ∧
      args.groups.drop 1 = [] := by
  obtain ⟨c, hc, hname, hpattern⟩ := exists_menuCommand
  have hfit : c.fits line = true := by
    rw [fits_iff hc, hpattern]
    exact h
  obtain ⟨args, hargs, hfind⟩ := exists_find?_of_fits hc (by rw [hname]; decide)
    (by rw [hname]; decide) hfit
  refine ⟨c, args, hfind, hname, ?_⟩
  obtain ⟨m, -, rfl⟩ := Option.map_eq_some_iff.mp hargs
  have hnone : c.pattern.lastGroup = 0 := by
    rw [hpattern]
    rfl
  simp [hnone]

theorem covers_menuPattern_iff {cs : List Char} :
    menuPattern.Covers cs ↔ cs.map Text.foldCase = menuWords.map Text.foldCase := by
  constructor
  · intro h
    obtain ⟨d, ⟨_, ⟨-, rfl⟩, hwords⟩, -⟩ := h
    obtain ⟨u, e, hu, hfold, hend, rfl⟩ := leads_spelled_iff.mp hwords
    have htext : cs = u ++ e.after := hu.after_eq
    rw [List.isEmpty_iff.mp hend, List.append_nil] at htext
    rw [htext, hfold]
  · intro h
    obtain ⟨d, hd, hend⟩ := reads_of_after (c := .start cs) (List.append_nil cs).symm
    have hwords : (spelled menuWords (anchor .textEnd)).Leads (.start cs) d :=
      leads_spelled_iff.mpr ⟨cs, d, hd, h, List.isEmpty_iff.mpr hend, rfl⟩
    exact ⟨d, ⟨_, ⟨rfl, rfl⟩, hwords⟩, hend⟩

theorem template_of_commandName {r : Rephrasing} (hr : r ∈ standard)
    (h : r.commandName = "click each menu item") : r.template.toList = menuWords := by
  refine (phrase_of_mem hr).2.2.2 ?_
  rw [← String.toList_ofList (l := commandWords r.template.toList)]
  exact congrArg String.toList h

theorem rephrase_menu {line : String} {r : Rephrasing} {m : Pattern.Match}
    (h : standard.applied? line = some (r, m)) (htemplate : r.template.toList = menuWords) :
    standard.rephrase line = "click each menu item" := by
  rw [rephrase_of_applied? h, ← String.toList_inj, toList_expand, htemplate]
  exact fill_of_fixed (by decide) _

theorem knows_rephrase {line : String} {a : Rephrasing × Pattern.Match}
    (h : standard.applied? line = some a) :
    Catalogue.standard.knows (standard.rephrase line) = true := by
  obtain ⟨c, args, action, hfind, -⟩ := find?_rephrase h
  rw [knows_eq_isSome, hfind, Option.isSome_some]

theorem rephrase_rephrase (line : String) :
    standard.rephrase (standard.rephrase line) = standard.rephrase line := by
  cases happlied : standard.applied? line with
  | none => rw [rephrase_of_not_applied happlied, rephrase_of_not_applied happlied]
  | some a =>
    obtain ⟨c, args, action, hfind, hname, -⟩ := find?_rephrase happlied
    cases hagain : standard.applied? (standard.rephrase line) with
    | none => exact rephrase_of_not_applied hagain
    | some b =>
      -- Then the line has become that of the menu, and only one phrase comes to that.
      obtain ⟨htemplate, hcovers⟩ := menu_of_applied? (knows_rephrase happlied) hagain
      obtain ⟨c', args', hfind', hname', -⟩ := find?_of_covers_menu hcovers
      have hsame : c = c' := (Prod.mk.inj (Option.some.inj (hfind.symm.trans hfind'))).1
      have hmenu := template_of_commandName (mem_of_applied? happlied).1
        (hname.symm.trans (hsame ▸ hname'))
      rw [rephrase_menu happlied hmenu]
      rw [rephrase_menu happlied hmenu] at hagain
      exact rephrase_menu hagain htemplate

theorem canonical_eq_rephrase {line : String} (hknown : Catalogue.standard.knows line = true)
    (htrim : Text.Trimmed line.toList) : standard.canonical line = standard.rephrase line := by
  unfold canonical
  rw [withoutMarker_of_known hknown htrim]

/-- A known line without blanks at its ends goes to the same command with the same captures when it
has been rephrased, and it stays as it is, but for the line of the menu, which loses its capital
letters. -/
theorem canonical_of_known {line : String} (htrim : Text.trim line = line)
    (hknown : Catalogue.standard.knows line = true) :
    (∃ c args args', Catalogue.standard.find? line = some (c, args) ∧
      Catalogue.standard.find? (standard.canonical line) = some (c, args') ∧
      args'.groups.drop 1 = args.groups.drop 1) ∧
    (standard.canonical line = line ∨
      line.toList.map Text.foldCase = "click each menu item".toList.map Text.foldCase ∧
        standard.canonical line = "click each menu item") := by
  rw [canonical_eq_rephrase hknown (Text.trim_eq_self_iff.mp htrim)]
  cases happlied : standard.applied? line with
  | none =>
    obtain ⟨⟨c, args⟩, hfind⟩ := Option.isSome_iff_exists.mp
      ((knows_eq_isSome Catalogue.standard line).symm.trans hknown)
    rw [rephrase_of_not_applied happlied]
    exact ⟨⟨c, args, args, hfind, hfind, rfl⟩, .inl rfl⟩
  | some a =>
    obtain ⟨htemplate, hcovers⟩ := menu_of_applied? hknown happlied
    have hmenu := rephrase_menu happlied htemplate
    obtain ⟨c, args, hfind, hname, hargs⟩ := find?_of_covers_menu hcovers
    have hitself : menuPattern.Covers "click each menu item".toList :=
      covers_menuPattern_iff.mpr rfl
    obtain ⟨c', args', hfind', hname', hargs'⟩ := find?_of_covers_menu hitself
    obtain rfl : c = c' := eq_of_name (mem_of_find? hfind).1 (mem_of_find? hfind').1
      (hname.trans hname'.symm)
    rw [hmenu]
    exact ⟨⟨c, args, args', hfind, hfind', hargs'.trans hargs.symm⟩,
      .inr ⟨covers_menuPattern_iff.mp hcovers, rfl⟩⟩

/-- A line whose captures hold what looks like a list item. -/
theorem canonical_of_known_quoted : ∃ c args args',
    Catalogue.standard.find? "Fill \"- 1.\" with \"2) wait 5 ms\"" = some (c, args) ∧
    Catalogue.standard.find? (standard.canonical "Fill \"- 1.\" with \"2) wait 5 ms\"") =
      some (c, args') ∧
    args'.groups.drop 1 = args.groups.drop 1 :=
  (canonical_of_known (by decide +kernel) (by decide +kernel)).1

end Walkthrough.Phrasebook
