import Mathlib.Data.List.Forall2
import Walkthrough.Proofs.Page.Preorder

namespace Walkthrough.Page

variable {p : Page} {i j : Nat}

/-- The text of an element, with that of each of its children. -/
inductive ReadsText (p : Page) : Nat → String → Prop
  | element {i : Nat} {e : Element} {texts : List String} (he : p.element? i = some e)
      (hchildren : List.Forall₂ (ReadsText p) (p.children i) texts) :
      ReadsText p i (spaced (Text.trim e.text :: texts))

/-- The texts of the labels on the way up from an element, if there is one. -/
inductive ReadsLabelsUp (p : Page) : Option Nat → List String → Prop
  | top : ReadsLabelsUp p none []
  | label {j : Nat} {e : Element} {text : String} {texts : List String}
      (he : p.element? j = some e) (htag : e.tag = "label") (htext : p.ReadsText j text)
      (hup : ReadsLabelsUp p e.parent texts) : ReadsLabelsUp p (some j) (text :: texts)
  | other {j : Nat} {e : Element} {texts : List String}
      (he : p.element? j = some e) (htag : e.tag ≠ "label")
      (hup : ReadsLabelsUp p e.parent texts) : ReadsLabelsUp p (some j) texts

inductive ReadsLabel (p : Page) (i : Nat) : String → Prop
  | parts {e : Element} {pointing around : List String} (he : p.element? i = some e)
      (hpointing : List.Forall₂ p.ReadsText (p.labelsFor i) pointing)
      (haround : p.ReadsLabelsUp e.parent around) :
      ReadsLabel p i (" ".intercalate ((e.attribute? "aria-label").toList ++ (pointing ++ around)))

/-- Whether nothing is hidden on the way up from an element, if there is one. -/
inductive LooksUp (p : Page) : Option Nat → Bool → Prop
  | top : LooksUp p none true
  | hidden {j : Nat} {e : Element} (he : p.element? j = some e) (hhidden : e.has "hidden" = true) :
      LooksUp p (some j) false
  | unhidden {j : Nat} {e : Element} {shown : Bool} (he : p.element? j = some e)
      (hhidden : e.has "hidden" = false) (hup : LooksUp p e.parent shown) : LooksUp p (some j) shown

inductive Looks (p : Page) (i : Nat) : Bool → Prop
  | unannounced {e : Element} (he : p.element? i = some e)
      (haria : e.attribute? "aria-hidden" = some "true") : Looks p i false
  | announced {e : Element} {shown : Bool} (he : p.element? i = some e)
      (haria : e.attribute? "aria-hidden" ≠ some "true") (hup : p.LooksUp (some i) shown) :
      Looks p i shown

theorem exists_element (hi : i < p.size) : ∃ e, p.element? i = some e :=
  ⟨_, List.getElem?_eq_getElem hi⟩

theorem parent?_of_element {e : Element} (he : p.element? i = some e) : p.parent? i = e.parent := by
  rw [parent?, he, Option.bind_some]

/-- Elements that can be read in one way only are read in a row as they are read alone. -/
theorem forall₂_iff_eq_map {R : Nat → String → Prop} {f : Nat → String} {js : List Nat}
    (hR : ∀ j ∈ js, ∀ text, R j text ↔ text = f j) {texts : List String} :
    List.Forall₂ R js texts ↔ texts = js.map f := by
  induction js generalizing texts with
  | nil => rw [List.forall₂_nil_left_iff, List.map_nil]
  | cons j js ih =>
    obtain ⟨hj, hjs⟩ := List.forall_mem_cons.mp hR
    rw [List.forall₂_cons_left_iff, List.map_cons]
    constructor
    · rintro ⟨text, rest, htext, hrest, rfl⟩
      rw [(hj text).mp htext, (ih hjs).mp hrest]
    · rintro rfl
      exact ⟨f j, js.map f, (hj _).mpr rfl, (ih hjs).mpr rfl, rfl⟩

theorem readsText_iff_forall₂ {e : Element} (he : p.element? i = some e) {text : String} :
    p.ReadsText i text ↔ ∃ texts, List.Forall₂ p.ReadsText (p.children i) texts ∧
      text = spaced (p.ownText i :: texts) := by
  have hown : p.ownText i = Text.trim e.text := by rw [ownText, he]
  rw [hown]
  constructor
  · rintro ⟨he', hchildren⟩
    cases he.symm.trans he'
    exact ⟨_, hchildren, rfl⟩
  · rintro ⟨texts, hchildren, rfl⟩
    exact .element he hchildren

theorem readsLabelsUp_none_iff {texts : List String} : p.ReadsLabelsUp none texts ↔ texts = [] := by
  constructor
  · rintro ⟨⟩
    rfl
  · rintro rfl
    exact .top

theorem readsLabelsUp_label_iff {e : Element} (he : p.element? j = some e) (htag : e.tag = "label")
    {texts : List String} : p.ReadsLabelsUp (some j) texts ↔
      ∃ text rest, p.ReadsText j text ∧ p.ReadsLabelsUp e.parent rest ∧ texts = text :: rest := by
  constructor
  · rintro (_ | ⟨he', -, htext, hrest⟩ | ⟨he', hother, -⟩)
    · cases he.symm.trans he'
      exact ⟨_, _, htext, hrest, rfl⟩
    · cases he.symm.trans he'
      exact absurd htag hother
  · rintro ⟨text, rest, htext, hrest, rfl⟩
    exact .label he htag htext hrest

theorem readsLabelsUp_other_iff {e : Element} (he : p.element? j = some e) (htag : e.tag ≠ "label")
    {texts : List String} : p.ReadsLabelsUp (some j) texts ↔ p.ReadsLabelsUp e.parent texts := by
  constructor
  · rintro (_ | ⟨he', hlabel, -, -⟩ | ⟨he', -, hrest⟩)
    · cases he.symm.trans he'
      exact absurd hlabel htag
    · cases he.symm.trans he'
      exact hrest
  · exact .other he htag

theorem looksUp_none_iff {shown : Bool} : p.LooksUp none shown ↔ shown = true := by
  constructor
  · rintro ⟨⟩
    rfl
  · rintro rfl
    exact .top

theorem looksUp_some_iff {e : Element} (he : p.element? j = some e) {shown : Bool} :
    p.LooksUp (some j) shown ↔
      if e.has "hidden" then shown = false else p.LooksUp e.parent shown := by
  constructor
  · rintro (_ | ⟨he', hhidden⟩ | ⟨he', hhidden, hup⟩)
    · cases he.symm.trans he'
      simp [hhidden]
    · cases he.symm.trans he'
      simpa [hhidden] using hup
  · split
    · rintro rfl
      exact .hidden he ‹_›
    · exact .unhidden he (Bool.eq_false_iff.mpr ‹_›)

theorem looks_iff {e : Element} (he : p.element? i = some e) {shown : Bool} :
    p.Looks i shown ↔
      if e.attribute? "aria-hidden" = some "true" then shown = false else p.LooksUp (some i) shown := by
  constructor
  · rintro (⟨he', haria⟩ | ⟨he', haria, hup⟩)
    · cases he.symm.trans he'
      simp [haria]
    · cases he.symm.trans he'
      simpa [haria] using hup
  · split
    · rintro rfl
      exact .unannounced he ‹_›
    · exact .announced he ‹_›

theorem lt_of_mem_labelsFor (hj : j ∈ p.labelsFor i) : j < p.size := by
  unfold labelsFor at hj
  split at hj
  · contradiction
  · exact List.mem_range.mp (List.mem_filter.mp hj).1

theorem readsLabel_iff {e : Element} (he : p.element? i = some e) {label : String} :
    p.ReadsLabel i label ↔ ∃ pointing around, List.Forall₂ p.ReadsText (p.labelsFor i) pointing ∧
      p.ReadsLabelsUp e.parent around ∧
      label = " ".intercalate ((e.attribute? "aria-label").toList ++ (pointing ++ around)) := by
  constructor
  · rintro ⟨he', hpointing, haround⟩
    cases he.symm.trans he'
    exact ⟨_, _, hpointing, haround, rfl⟩
  · rintro ⟨pointing, around, hpointing, haround, rfl⟩
    exact .parts he hpointing haround

theorem ReadsText.accessible {text : String} (hread : p.ReadsText i text) :
    Acc (fun child parent => p.IsParent parent child) i := by
  -- the texts of the children are read by a list of readings, with an induction of its own
  refine @ReadsText.rec p (fun i _ _ => Acc (fun child parent => p.IsParent parent child) i)
    (fun js _ _ => ∀ j ∈ js, Acc (fun child parent => p.IsParent parent child) j)
    (fun _ _ ih => ⟨_, fun child hparent => ih child (mem_children_iff.mpr hparent)⟩)
    (fun _ hmem => absurd hmem List.not_mem_nil)
    (fun _ _ hfirst hrest => List.forall_mem_cons.mpr ⟨hfirst, hrest⟩) i text hread

theorem not_readsText_of_circular (hcircle : p.IsAncestor i i) (text : String) :
    ¬ p.ReadsText i text := by
  intro hread
  have haccessible := hread.accessible
  clear hread
  induction haccessible with
  | intro i _ ih =>
    obtain ⟨child, hparent, hback⟩ := Relation.TransGen.head'_iff.mp hcircle
    exact ih child hparent (Relation.TransGen.tail' hback hparent)

section Forest

variable (h : p.IsForest)
include h

theorem IsForest.readsText_iff (hi : i < p.size) {text : String} :
    p.ReadsText i text ↔ text = p.textContent i := by
  induction i using h.wellFounded_child.induction generalizing text with
  | _ i ih =>
    obtain ⟨e, he⟩ := exists_element hi
    have hchildren : ∀ j ∈ p.children i, ∀ text, p.ReadsText j text ↔ text = p.textContent j := by
      intro j hj text
      have hparent : p.IsParent i j := mem_children_iff.mp hj
      exact ih j hparent hparent.child_lt
    rw [readsText_iff_forall₂ he, h.textContent_eq]
    simp only [forall₂_iff_eq_map hchildren, exists_eq_left]

theorem IsForest.readsTexts_iff {js : List Nat} (hjs : ∀ j ∈ js, j < p.size) {texts : List String} :
    List.Forall₂ p.ReadsText js texts ↔ texts = js.map p.textContent :=
  forall₂_iff_eq_map fun j hj _ => h.readsText_iff (hjs j hj)

section Walk

variable {β : Type} {walk : Option Nat → β → Prop} (told : List Nat → β)
  (htop : ∀ b, walk none b ↔ b = told [])
  (hstep : ∀ {j e way}, p.element? j = some e → (∀ b, walk e.parent b ↔ b = told way) →
    ∀ b, walk (some j) b ↔ b = told (j :: way))
include htop hstep

theorem IsForest.walkAbove_iff {e : Element} (he : p.element? i = some e) (b : β) :
    walk e.parent b ↔ b = told (p.ancestors i) := by
  induction i using h.wellFounded_parent.induction generalizing e b with
  | _ i ih =>
    rw [← parent?_of_element he]
    cases hparent : p.parent? i with
    | none =>
      rw [ancestors, ancestorsWithin_of_root hparent]
      exact htop b
    | some k =>
      obtain ⟨e', he'⟩ := exists_element (h.parent_lt hparent)
      rw [h.ancestors_eq hparent]
      exact hstep he' (ih k hparent he') b

theorem IsForest.walkFrom_iff {e : Element} (he : p.element? i = some e) (b : β) :
    walk (some i) b ↔ b = told (i :: p.ancestors i) :=
  hstep he (h.walkAbove_iff told htop hstep he) b

end Walk

theorem IsForest.readsLabelsUp_iff {e : Element} (he : p.element? i = some e) (texts : List String) :
    p.ReadsLabelsUp e.parent texts ↔
      texts = ((p.ancestors i).filter (p.hasTag · "label")).map p.textContent := by
  refine h.walkAbove_iff (fun way => (way.filter (p.hasTag · "label")).map p.textContent)
    (fun _ => readsLabelsUp_none_iff) (fun {j e way} he hup texts => ?_) he texts
  have hj : j < p.size := (List.getElem?_eq_some_iff.mp he).1
  by_cases htag : e.tag = "label"
  · rw [readsLabelsUp_label_iff he htag, List.filter_cons_of_pos (by simp [hasTag, he, htag])]
    simp only [h.readsText_iff hj, hup, exists_eq_left, exists_and_left, List.map_cons]
  · rw [readsLabelsUp_other_iff he htag, List.filter_cons_of_neg (by simp [hasTag, he, htag]), hup]

theorem IsForest.readsLabel_iff_labelText (hi : i < p.size) (label : String) :
    p.ReadsLabel i label ↔ label = p.labelText i := by
  obtain ⟨e, he⟩ := exists_element hi
  have haria : p.attribute? i "aria-label" = e.attribute? "aria-label" := by
    rw [attribute?, he, Option.bind_some]
  rw [readsLabel_iff he]
  simp only [h.readsTexts_iff fun j hj => lt_of_mem_labelsFor hj, h.readsLabelsUp_iff he,
    exists_eq_left, exists_and_left, labelText, haria, List.map_append]

theorem IsForest.looksUp_iff {e : Element} (he : p.element? i = some e) (shown : Bool) :
    p.LooksUp (some i) shown ↔
      shown = (i :: p.ancestors i).all fun j => (p.attribute? j "hidden").isNone := by
  refine h.walkFrom_iff (List.all · fun j => (p.attribute? j "hidden").isNone)
    (fun _ => looksUp_none_iff) (fun {j e way} he hup shown => ?_) he shown
  have hhidden : (p.attribute? j "hidden").isNone = !e.has "hidden" := by
    simp [attribute?, he, Element.has]
  rw [looksUp_some_iff he, hup, List.all_cons, hhidden]
  cases e.has "hidden" <;> simp

theorem IsForest.looks_iff_isVisible (hi : i < p.size) (shown : Bool) :
    p.Looks i shown ↔ shown = p.isVisible i := by
  obtain ⟨e, he⟩ := exists_element hi
  have haria : p.attribute? i "aria-hidden" = e.attribute? "aria-hidden" := by
    rw [attribute?, he, Option.bind_some]
  rw [looks_iff he, h.looksUp_iff he, isVisible, haria]
  by_cases htrue : e.attribute? "aria-hidden" = some "true"
  · rw [if_pos htrue, htrue, bne_self_eq_false, Bool.false_and]
  · rw [if_neg htrue, bne_iff_ne.mpr htrue, Bool.true_and]

end Forest

/-- On a page whose parents form a forest, whichever of a parent and its child comes first, no reading
of an element goes on for ever or leaves the page: its text, what labels it and whether it is visible
are each read in one way. There is exactly one preorder of the element and all that is below it, and
its text is what these say themselves in that order, trimmed and without what is empty, with single
spaces between. -/
theorem text_in_preorder (h : p.IsForest) (hi : i < p.size) :
    (∀ text, p.ReadsText i text ↔ text = p.textContent i) ∧
    (∀ label, p.ReadsLabel i label ↔ label = p.labelText i) ∧
    (∀ shown, p.Looks i shown ↔ shown = p.isVisible i) ∧
    (∀ order, p.IsPreorder i order ↔ order = p.preorder i) ∧
    p.textContent i = " ".intercalate (((p.preorder i).map p.ownText).filter (!·.isEmpty)) := by
  refine ⟨fun _ => h.readsText_iff hi, h.readsLabel_iff_labelText hi, h.looks_iff_isVisible hi,
    fun order => ⟨fun horder => ?_, ?_⟩, h.textContent_eq_preorder hi⟩
  · exact h.isPreorder_unique horder (h.isPreorder_preorder hi)
  · rintro rfl
    exact h.isPreorder_preorder hi

/-- Children before and behind their parents, parts that are empty, and a control labelled by what
points to it and by what is around it. -/
theorem text_in_preorder_labelled :
    let element (tag text : String) (attributes : List (String × String)) (parent : Option Nat) :
        Element := ⟨tag, attributes, text, parent, false⟩
    let p : Page := ⟨[element "b" " one\n" [] (some 4), element "label" "Name:" [("for", "q")] (some 3),
      element "input" "" [("id", "q")] (some 4), element "form" "\t" [("hidden", "")] none,
      element "label" "outer " [] (some 3), element "i" "" [] (some 1),
      element "em" "of two" [] (some 5)], [], [], ⟨0, 0⟩⟩
    p.IsForest ∧ 3 < p.size ∧ p.preorder 3 = [3, 1, 5, 6, 4, 0, 2] ∧
      p.IsPreorder 3 [3, 1, 5, 6, 4, 0, 2] ∧ p.ReadsText 3 "Name: of two outer one" ∧
      2 < p.size ∧ p.ReadsLabel 2 "Name: of two outer one" ∧ p.Looks 2 false := by
  intro element p
  have hp : p.IsForest := isForest_of_ranks [2, 1, 2, 0, 1, 2, 3] (by decide)
  have horder : p.preorder 3 = [3, 1, 5, 6, 4, 0, 2] := by decide +kernel
  have hform : 3 < p.size := by decide
  have hinput : 2 < p.size := by decide
  obtain ⟨htext, -, -, hpreorder, hjoined⟩ := text_in_preorder hp hform
  obtain ⟨-, hlabel, hshown, -, -⟩ := text_in_preorder hp hinput
  refine ⟨hp, hform, horder, (hpreorder _).mpr horder.symm, (htext _).mpr ?_, hinput,
    (hlabel _).mpr (by decide +kernel), (hshown _).mpr (by decide +kernel)⟩
  rw [hjoined, horder]
  decide +kernel

end Walkthrough.Page
