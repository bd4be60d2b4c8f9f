import Mathlib.Data.List.Range
import Walkthrough.Proofs.Page.Content

namespace Walkthrough.Page

open Relation (ReflTransGen)

variable {p : Page} {i j : Nat} {w : Wording}

/-- Nothing keeps the text of the element from being shown. -/
structure ShowsText (p : Page) (i : Nat) : Prop where
  announced : p.attribute? i "aria-hidden" ≠ some "true"
  unhidden : ∀ j, ReflTransGen p.IsParent j i → p.attribute? j "hidden" = none
  textual : ∀ tag ∈ Query.textlessTags, p.hasTag i tag = false

/-- Nothing on the page is hidden, and all of it is text. -/
def IsPlain (p : Page) : Prop :=
  ∀ e ∈ p.elements, e.attribute? "hidden" = none ∧ e.attribute? "aria-hidden" ≠ some "true" ∧
    e.tag ∉ Query.textlessTags

instance (p : Page) : Decidable p.IsPlain :=
  inferInstanceAs (Decidable (∀ e ∈ p.elements, _))

def innermost (p : Page) (w : Wording) : List Nat :=
  p.shown.filter (Query.isInnermost p w)

theorem find_text (p : Page) (w : Wording) : p.find (.text w) = .ok (p.innermost w) := rfl

theorem pairwise_innermost (p : Page) (w : Wording) : (p.innermost w).Pairwise (· < ·) :=
  (List.pairwise_lt_range.filter _).filter _

theorem IsPlain.showsText (h : p.IsPlain) (i : Nat) : p.ShowsText i := by
  have hplain {j : Nat} {e : Element} (he : p.element? j = some e) :=
    h e (List.mem_of_getElem? he)
  constructor
  · intro haria
    obtain ⟨e, he, hvalue⟩ := Option.bind_eq_some_iff.mp haria
    exact (hplain he).2.1 hvalue
  · intro j _
    rw [attribute?, Option.bind_eq_none_iff]
    exact fun e he => (hplain he).1
  · intro tag htag
    rw [hasTag, Bool.eq_false_iff]
    intro hany
    obtain ⟨e, he, hsame⟩ := (Option.any_eq_true _ _).mp hany
    exact (hplain he).2.2 (beq_iff_eq.mp hsame ▸ htag)

section Forest

variable (h : p.IsForest)
include h

theorem IsForest.isVisible_iff : p.isVisible i = true ↔
    p.attribute? i "aria-hidden" ≠ some "true" ∧
      ∀ j, ReflTransGen p.IsParent j i → p.attribute? j "hidden" = none := by
  unfold isVisible
  rw [Bool.and_eq_true, bne_iff_ne, List.all_eq_true]
  refine and_congr_right fun _ => forall_congr' fun j => ?_
  have hway : j ∈ i :: p.ancestors i ↔ ReflTransGen p.IsParent j i := by
    rw [List.mem_cons, h.mem_ancestors_iff, Relation.reflTransGen_iff_eq_or_transGen, eq_comm]
    rfl
  rw [hway, Option.isNone_iff_eq_none]

theorem IsForest.showsText_iff : p.ShowsText i ↔
    p.isVisible i = true ∧ Query.textlessTags.any (p.hasTag i) = false := by
  have htags : Query.textlessTags.any (p.hasTag i) = false ↔
      ∀ tag ∈ Query.textlessTags, p.hasTag i tag = false := by
    rw [List.any_eq_false]
    exact forall₂_congr fun tag _ => by rw [Bool.not_eq_true]
  rw [h.isVisible_iff, htags]
  constructor
  · intro hshows
    exact ⟨⟨hshows.announced, hshows.unhidden⟩, hshows.textual⟩
  · rintro ⟨⟨haria, hhidden⟩, htextual⟩
    exact ⟨haria, hhidden, htextual⟩

theorem IsForest.mem_innermost_iff : i ∈ p.innermost w ↔
    i < p.size ∧ p.ShowsText i ∧ w.fits (p.textContent i) = true ∧
      ∀ j, p.IsParent i j → w.fits (p.textContent j) = false := by
  have hchildren : ((p.children i).any fun j => w.fits (p.textContent j)) = false ↔
      ∀ j, p.IsParent i j → w.fits (p.textContent j) = false := by
    rw [List.any_eq_false]
    exact forall_congr' fun j => by rw [mem_children_iff, Bool.not_eq_true]
  unfold innermost shown indices Query.isInnermost
  rw [List.mem_filter, List.mem_filter, List.mem_range, Bool.and_eq_true, Bool.and_eq_true,
    Bool.not_eq_true', Bool.not_eq_true', hchildren, h.showsText_iff]
  constructor
  · rintro ⟨⟨hi, hvisible⟩, ⟨htags, hfits⟩, hnone⟩
    exact ⟨hi, ⟨hvisible, htags⟩, hfits, hnone⟩
  · rintro ⟨hi, ⟨hvisible, htags⟩, hfits, hnone⟩
    exact ⟨⟨hi, hvisible⟩, ⟨htags, hfits⟩, hnone⟩

theorem IsForest.not_above_of_mem_innermost (hi : i ∈ p.innermost w) (hj : j ∈ p.innermost w) :
    ¬ p.IsAncestor i j := by
  intro habove
  -- the wording fits every element between the two, so also the child that leads down to the lower one
  obtain ⟨child, hparent, hbelow⟩ := Relation.TransGen.head'_iff.mp habove
  have hchild : w.fits (p.textContent child) = true :=
    h.fits_above hbelow (h.mem_innermost_iff.mp hj).2.2.1
  rw [(h.mem_innermost_iff.mp hi).2.2.2 child hparent] at hchild
  contradiction

/-- What is found at an element that the wording fits, or below it, unless something there that it
fits is not shown. -/
theorem IsForest.exists_mem_innermost (hi : i < p.size) (hfits : w.fits (p.textContent i) = true)
    (hshown : ∀ j, ReflTransGen p.IsParent i j → w.fits (p.textContent j) = true → p.ShowsText j) :
    ∃ j ∈ p.innermost w, ReflTransGen p.IsParent i j := by
  obtain ⟨j, hbelow, hj, hnone⟩ := h.exists_innermost (P := fun j => w.fits (p.textContent j)) hfits
  have hsize : j < p.size := by
    rcases Relation.ReflTransGen.cases_tail hbelow with rfl | ⟨above, -, hparent⟩
    · exact hi
    · exact hparent.child_lt
  refine ⟨j, h.mem_innermost_iff.mpr ⟨hsize, hshown j hbelow hj, hj, fun child hparent => ?_⟩, hbelow⟩
  exact Bool.eq_false_iff.mpr (hnone child hparent)

end Forest

/-- On a page whose parents form a forest a search for text finds, in document order, exactly the
elements that show their text, that the wording fits and of whose children it fits none. None of them
is above another one. Where nothing is hidden and everything is text, it finds something if and only
if the wording fits anything. -/
theorem finds_innermost (h : p.IsForest) (w : Wording) :
    ∃ found, p.find (.text w) = .ok found ∧ found.Pairwise (· < ·) ∧
      (∀ i, i ∈ found ↔ i < p.size ∧ p.ShowsText i ∧ w.fits (p.textContent i) = true ∧
        ∀ j, p.IsParent i j → w.fits (p.textContent j) = false) ∧
      (∀ i ∈ found, ∀ j ∈ found, ¬ p.IsAncestor i j) ∧
      (p.IsPlain → (found ≠ [] ↔ ∃ i < p.size, w.fits (p.textContent i) = true)) := by
  refine ⟨p.innermost w, p.find_text w, p.pairwise_innermost w, fun i => h.mem_innermost_iff,
    fun i hi j hj => h.not_above_of_mem_innermost hi hj, fun hplain => ⟨fun hsome => ?_, ?_⟩⟩
  · obtain ⟨i, hi⟩ := List.exists_mem_of_ne_nil _ hsome
    obtain ⟨hsize, -, hfits, -⟩ := h.mem_innermost_iff.mp hi
    exact ⟨i, hsize, hfits⟩
  · rintro ⟨i, hsize, hfits⟩
    obtain ⟨j, hj, -⟩ := h.exists_mem_innermost hsize hfits fun j _ _ => hplain.showsText j
    exact List.ne_nil_of_mem hj

/-- A child that comes before its parent, and a text that only the two of them together say. -/
theorem finds_innermost_nested :
    let element (tag text : String) (parent : Option Nat) : Element := ⟨tag, [], text, parent, false⟩
    let p : Page := ⟨[element "b" "ΠΡΟΣ" (some 1), element "p" "big sale " (some 3),
      element "i" " today" (some 1), element "div" "" none], [], [], ⟨0, 0⟩⟩
    let w : Wording := .anyOf ["προς", " TODAY "]
    p.IsForest ∧ p.IsPlain ∧ p.textContent 3 = "big sale ΠΡΟΣ today" ∧
      p.find (.text (.contains "Sale προς")) = .ok [1] ∧ p.find (.text w) = .ok [0, 2] ∧
      (∀ i ∈ [0, 2], ∀ j ∈ [0, 2], ¬ p.IsAncestor i j) ∧
      ∃ i < p.size, w.fits (p.textContent i) = true := by
  intro element p w
  have hp : p.IsForest := isForest_of_ranks [2, 1, 2, 0] (by decide)
  have hplain : p.IsPlain := by decide +kernel
  have hfind : p.find (.text w) = .ok [0, 2] := by decide +kernel
  obtain ⟨found, hfound, -, -, hapart, hsome⟩ := finds_innermost hp w
  obtain rfl : found = [0, 2] := Except.ok.inj (hfound.symm.trans hfind)
  exact ⟨hp, hplain, by decide +kernel, by decide +kernel, hfind, hapart,
    (hsome hplain).mp (List.cons_ne_nil _ _)⟩

end Walkthrough.Page
