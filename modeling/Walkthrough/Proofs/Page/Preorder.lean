import Walkthrough.Proofs.Page.Content

namespace Walkthrough.Page

open Relation (ReflTransGen TransGen)

variable {p : Page} {i j : Nat}

/-- `a` is above `b`, or at or below an earlier sibling of an element that `b` is at or below. -/
def Precedes (p : Page) (a b : Nat) : Prop :=
  p.IsAncestor a b ∨ ∃ top c d, p.IsParent top c ∧ p.IsParent top d ∧ c < d ∧
    ReflTransGen p.IsParent c a ∧ ReflTransGen p.IsParent d b

/-- The element `i` and all that is below it, each once and in preorder. -/
structure IsPreorder (p : Page) (i : Nat) (order : List Nat) : Prop where
  mem_iff : ∀ j, j ∈ order ↔ ReflTransGen p.IsParent i j
  nodup : order.Nodup
  ordered : order.Pairwise p.Precedes

def preorderWithin (p : Page) : Nat → Nat → List Nat
  | 0, _ => []
  | n + 1, i => i :: (p.children i).flatMap (p.preorderWithin n)

def preorder (p : Page) (i : Nat) : List Nat :=
  p.preorderWithin p.size i

theorem children_ascend (p : Page) (i : Nat) : (p.children i).Pairwise (· < ·) :=
  List.pairwise_lt_range.filter _

theorem eq_or_above_parent {c d top : Nat} (hd : p.IsParent top d)
    (hcd : ReflTransGen p.IsParent c d) : d = c ∨ ReflTransGen p.IsParent c top := by
  refine (ReflTransGen.cases_tail hcd).imp_right ?_
  rintro ⟨above, habove, hparent⟩
  exact Option.some.inj (hparent.symm.trans hd) ▸ habove

theorem nested_of_above {top top' a c d : Nat} (hc : p.IsParent top c) (hd : p.IsParent top' d)
    (hca : ReflTransGen p.IsParent c a) (hda : ReflTransGen p.IsParent d a) :
    c = d ∨ ReflTransGen p.IsParent c top' ∨ ReflTransGen p.IsParent d top := by
  have hunique : Relator.RightUnique (Function.swap p.IsParent) :=
    fun _ _ _ h h' => Option.some.inj (h.symm.trans h')
  have htotal := ReflTransGen.total_of_right_unique hunique (Relation.reflTransGen_swap.mpr hca)
    (Relation.reflTransGen_swap.mpr hda)
  obtain hcd | hdc := htotal.symm.imp Relation.reflTransGen_swap.mp Relation.reflTransGen_swap.mp
  · exact (eq_or_above_parent hd hcd).imp Eq.symm .inl
  · exact (eq_or_above_parent hc hdc).imp_right .inr

section Forest

variable (h : p.IsForest)
include h

theorem IsForest.eq_of_siblings {top a c d : Nat} (hc : p.IsParent top c) (hd : p.IsParent top d)
    (hca : ReflTransGen p.IsParent c a) (hda : ReflTransGen p.IsParent d a) : c = d := by
  obtain rfl | hcd | hdc := nested_of_above hc hd hca hda
  · rfl
  · exact absurd (TransGen.tail' hcd hc) (h.acyclic c)
  · exact absurd (TransGen.tail' hdc hd) (h.acyclic d)

theorem IsForest.not_precedes_of_above {a b : Nat} (hab : ReflTransGen p.IsParent a b) :
    ¬ p.Precedes b a := by
  rintro (hba | ⟨top, c, d, hc, hd, hlt, hcb, hda⟩)
  · exact h.acyclic b (TransGen.trans_left hba hab)
  · exact Nat.ne_of_lt hlt (h.eq_of_siblings hc hd hcb (hda.trans hab))

theorem IsForest.precedes_asymm {a b : Nat} (hab : p.Precedes a b) : ¬ p.Precedes b a := by
  intro hba
  obtain habove | ⟨top, c, d, hc, hd, hlt, hca, hdb⟩ := id hab
  · exact h.not_precedes_of_above habove.to_reflTransGen hba
  obtain habove | ⟨top', c', d', hc', hd', hlt', hcb, hda⟩ := hba
  · exact h.not_precedes_of_above habove.to_reflTransGen hab
  -- `c` and `d'` are both above `a`: the upper one is above both siblings of the other pair
  obtain rfl | hcd | hdc := nested_of_above hc hd' hca hda
  · obtain rfl : top = top' := Option.some.inj (hc.symm.trans hd')
    have hsame : d = c' := h.eq_of_siblings hd hc' hdb hcb
    omega
  · exact Nat.ne_of_lt hlt (h.eq_of_siblings hc hd ((hcd.tail hc').trans hcb) hdb)
  · exact Nat.ne_of_lt hlt' (h.eq_of_siblings hc' hd' hcb ((hdc.tail hd).trans hdb))

theorem IsForest.isPreorder_unique {order order' : List Nat} (horder : p.IsPreorder i order)
    (horder' : p.IsPreorder i order') : order = order' := by
  have hperm : order.Perm order' :=
    (List.perm_ext_iff_of_nodup horder.nodup horder'.nodup).mpr fun j => by
      rw [horder.mem_iff, horder'.mem_iff]
  exact hperm.eq_of_pairwise (fun a b _ _ hab hba => absurd hba (h.precedes_asymm hab))
    horder.ordered horder'.ordered

theorem IsForest.preorder_eq (hi : i < p.size) :
    p.preorder i = i :: (p.children i).flatMap p.preorder :=
  h.unfolds p.preorderWithin (fun i orders => i :: orders.flatten) (fun _ _ => rfl)
    (Nat.zero_lt_of_lt hi) i

theorem IsForest.mem_preorder_iff (hi : i < p.size) :
    j ∈ p.preorder i ↔ ReflTransGen p.IsParent i j := by
  induction i using h.wellFounded_child.induction with
  | _ i ih =>
    rw [h.preorder_eq hi, List.mem_cons, List.mem_flatMap, ReflTransGen.cases_head_iff, eq_comm]
    refine or_congr_right (exists_congr fun child => ?_)
    rw [mem_children_iff]
    exact and_congr_right fun hchild => ih child hchild hchild.child_lt

theorem IsForest.ordered_preorder (hi : i < p.size) : (p.preorder i).Pairwise p.Precedes := by
  induction i using h.wellFounded_child.induction with
  | _ i ih =>
    rw [h.preorder_eq hi, List.pairwise_cons, List.pairwise_flatMap]
    refine ⟨fun b hb => ?_, fun child hchild => ?_, ?_⟩
    · obtain ⟨child, hchild, hb⟩ := List.mem_flatMap.mp hb
      have hparent : p.IsParent i child := mem_children_iff.mp hchild
      exact .inl (.head' hparent ((h.mem_preorder_iff hparent.child_lt).mp hb))
    · have hparent : p.IsParent i child := mem_children_iff.mp hchild
      exact ih child hparent hparent.child_lt
    · refine (p.children_ascend i).imp_of_mem fun {c d} hc hd hlt a ha b hb => ?_
      have hc : p.IsParent i c := mem_children_iff.mp hc
      have hd : p.IsParent i d := mem_children_iff.mp hd
      exact .inr ⟨i, c, d, hc, hd, hlt, (h.mem_preorder_iff hc.child_lt).mp ha,
        (h.mem_preorder_iff hd.child_lt).mp hb⟩

theorem IsForest.isPreorder_preorder (hi : i < p.size) : p.IsPreorder i (p.preorder i) := by
  have hordered := h.ordered_preorder hi
  refine ⟨fun j => h.mem_preorder_iff hi, hordered.imp fun {a b} hab heq => ?_, hordered⟩
  exact h.precedes_asymm hab (heq ▸ hab)

theorem IsForest.textContent_eq_preorder (hi : i < p.size) :
    p.textContent i = spaced ((p.preorder i).map p.ownText) := by
  induction i using h.wellFounded_child.induction with
  | _ i ih =>
    have hchildren : (p.children i).map p.textContent =
        ((p.children i).map fun j => (p.preorder j).map p.ownText).map spaced := by
      rw [List.map_map]
      refine List.map_congr_left fun j hj => ?_
      have hparent : p.IsParent i j := mem_children_iff.mp hj
      exact ih j hparent hparent.child_lt
    calc p.textContent i
      _ = spaced (p.ownText i :: (p.children i).map p.textContent) := h.textContent_eq i
      _ = spaced (p.ownText i :: ((p.children i).map fun j => (p.preorder j).map p.ownText).flatten) := by
        rw [hchildren, spaced_cons, spaced_flatten, ← spaced_cons]
      _ = spaced ((p.preorder i).map p.ownText) := by
        rw [h.preorder_eq hi, List.map_cons, List.map_flatMap, List.flatMap_def]

end Forest

end Walkthrough.Page
