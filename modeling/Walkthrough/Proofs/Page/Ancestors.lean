import Mathlib.Data.List.Perm.Subperm
import Mathlib.Logic.Relation
import Walkthrough.Page.Basic

namespace Walkthrough.Page

variable {p : Page} {i j : Nat}

def IsParent (p : Page) (j i : Nat) : Prop :=
  p.parent? i = some j

/-- A proper ancestor: a parent, or a parent of one. -/
def IsAncestor (p : Page) : Nat → Nat → Prop :=
  Relation.TransGen p.IsParent

/-- Parents are on the page, and no element is above itself. -/
structure IsForest (p : Page) : Prop where
  parent_lt : ∀ {j i}, p.IsParent j i → j < p.size
  acyclic : ∀ i, ¬ p.IsAncestor i i

/-- Parents form a forest if each has a lower rank than its children. -/
theorem isForest_of_rank (rank : Nat → Nat)
    (h : ∀ j i, p.IsParent j i → j < p.size ∧ rank j < rank i) : p.IsForest := by
  have hrank {j i : Nat} (hji : p.IsAncestor j i) : rank j < rank i := by
    induction hji with
    | single hparent => exact (h _ _ hparent).2
    | tail _ hparent ih => exact Nat.lt_trans ih (h _ _ hparent).2
  exact ⟨fun hparent => (h _ _ hparent).1, fun i hi => Nat.lt_irrefl _ (hrank hi)⟩

theorem IsParent.child_lt (h : p.IsParent j i) : i < p.size := by
  unfold IsParent parent? element? at h
  obtain ⟨e, he, -⟩ := Option.bind_eq_some_iff.mp h
  exact (List.getElem?_eq_some_iff.mp he).1

theorem isForest_of_ranks (ranks : List Nat) (h : ∀ i < p.size, ∀ j ∈ p.parent? i,
    j < p.size ∧ ranks.getD j 0 < ranks.getD i 0) : p.IsForest :=
  isForest_of_rank (fun i => ranks.getD i 0) fun j i hparent => h i hparent.child_lt j hparent

/-- The way up from an element ends by itself, at an element without a parent: the bound on it cuts
nothing off. -/
structure AscentEnds (p : Page) (i : Nat) : Prop where
  unbounded : ∀ n, p.size ≤ n → p.ancestorsWithin n i = p.ancestors i
  root : ∃ top, (i :: p.ancestors i).getLast? = some top ∧ p.parent? top = none

@[simp] theorem ancestorsWithin_of_root (h : p.parent? i = none) (n : Nat) :
    p.ancestorsWithin n i = [] := by
  cases n with
  | zero => rfl
  | succ n => simp [ancestorsWithin, h]

theorem ancestorsWithin_of_parent (h : p.IsParent j i) (n : Nat) :
    p.ancestorsWithin (n + 1) i = j :: p.ancestorsWithin n j := by
  have hparent : p.parent? i = some j := h
  simp [ancestorsWithin, hparent]

theorem isChain_ancestorsWithin (p : Page) (n i : Nat) :
    List.IsChain (fun below above => p.IsParent above below) (i :: p.ancestorsWithin n i) := by
  induction n generalizing i with
  | zero => exact .singleton i
  | succ n ih =>
    cases h : p.parent? i with
    | none =>
      rw [ancestorsWithin_of_root h]
      exact .singleton i
    | some j =>
      rw [ancestorsWithin_of_parent h]
      exact .cons_cons h (ih j)

theorem pairwise_ancestorsWithin (p : Page) (n i : Nat) :
    List.Pairwise (fun below above => p.IsAncestor above below) (i :: p.ancestorsWithin n i) := by
  have : Trans (fun below above => p.IsAncestor above below)
      (fun below above => p.IsAncestor above below) fun below above => p.IsAncestor above below :=
    ⟨fun hab hbc => hbc.trans hab⟩
  have hchain : List.IsChain (fun below above => p.IsAncestor above below) _ :=
    (p.isChain_ancestorsWithin n i).imp fun _ _ h => .single h
  exact hchain.pairwise

theorem isAncestor_of_mem {n : Nat} (h : j ∈ p.ancestorsWithin n i) : p.IsAncestor j i :=
  List.rel_of_pairwise_cons (p.pairwise_ancestorsWithin n i) h

/-- A walk that is shorter than its bound ends at a root, and any greater bound leaves it as it is. -/
theorem ancestorsWithin_of_length_lt {n : Nat} (h : (p.ancestorsWithin n i).length < n) :
    (∀ m, n ≤ m → p.ancestorsWithin m i = p.ancestorsWithin n i) ∧
      ∃ top, (i :: p.ancestorsWithin n i).getLast? = some top ∧ p.parent? top = none := by
  induction n generalizing i with
  | zero => exact absurd h (Nat.not_lt_zero _)
  | succ n ih =>
    cases hparent : p.parent? i with
    | none => simp [hparent]
    | some j =>
      rw [ancestorsWithin_of_parent hparent] at h ⊢
      obtain ⟨hlonger, top, htop, hroot⟩ := ih (Nat.lt_of_succ_lt_succ h)
      constructor
      · intro m hm
        obtain ⟨m, rfl⟩ := Nat.exists_eq_succ_of_ne_zero (Nat.ne_zero_of_lt hm)
        rw [ancestorsWithin_of_parent hparent, hlonger m (Nat.le_of_succ_le_succ hm)]
      · exact ⟨top, by rw [List.getLast?_cons_cons, htop], hroot⟩

variable (h : p.IsForest)
include h

theorem IsForest.length_ancestorsWithin (hi : i < p.size) (n : Nat) :
    (p.ancestorsWithin n i).length < p.size := by
  have hnodup : (i :: p.ancestorsWithin n i).Nodup := by
    refine (p.pairwise_ancestorsWithin n i).imp fun {below above} habove heq => ?_
    exact h.acyclic below (heq ▸ habove)
  have hsubset : i :: p.ancestorsWithin n i ⊆ List.range p.size := by
    intro k hk
    rcases List.mem_cons.mp hk with rfl | hk
    · exact List.mem_range.mpr hi
    · obtain ⟨below, hparent, -⟩ := (Relation.TransGen.head'_iff).mp (isAncestor_of_mem hk)
      exact List.mem_range.mpr (h.parent_lt hparent)
  have hlength := (List.subperm_of_subset hnodup hsubset).length_le
  rw [List.length_range] at hlength
  exact hlength

theorem IsForest.ascentEnds (i : Nat) : p.AscentEnds i := by
  cases hparent : p.parent? i with
  | none => exact ⟨by simp [ancestors, hparent], i, by simp [ancestors, hparent]⟩
  | some j =>
    have hi : i < p.size := IsParent.child_lt hparent
    obtain ⟨hlonger, hroot⟩ := ancestorsWithin_of_length_lt (h.length_ancestorsWithin hi p.size)
    exact ⟨hlonger, hroot⟩

/-- The way up goes on beyond a parent as the way up from that parent does. -/
theorem IsForest.ancestors_eq (hparent : p.IsParent j i) :
    p.ancestors i = j :: p.ancestors j := by
  have hlonger := (h.ascentEnds i).unbounded (p.size + 1) (Nat.le_succ _)
  rw [← hlonger, ancestorsWithin_of_parent hparent]
  rfl

theorem IsForest.length_ancestors (hparent : p.IsParent j i) :
    (p.ancestors i).length = (p.ancestors j).length + 1 :=
  congrArg List.length (h.ancestors_eq hparent)

theorem IsForest.mem_ancestors_iff : j ∈ p.ancestors i ↔ p.IsAncestor j i := by
  refine ⟨isAncestor_of_mem, fun hji => ?_⟩
  induction hji with
  | single hparent =>
    rw [h.ancestors_eq hparent]
    exact List.mem_cons_self
  | tail _ hparent ih =>
    rw [h.ancestors_eq hparent]
    exact List.mem_cons_of_mem _ ih

theorem IsForest.wellFounded_parent : WellFounded p.IsParent := by
  have hfinite : WellFounded (InvImage (· < ·) fun i => (p.ancestors i).length) :=
    InvImage.wf _ Nat.lt_wfRel.wf
  refine Subrelation.wf (fun {parent child} hparent => ?_) hfinite
  exact Nat.lt_of_lt_of_eq (Nat.lt_succ_self _) (h.length_ancestors hparent).symm

theorem IsForest.wellFounded_child : WellFounded fun child parent => p.IsParent parent child := by
  have hfinite : WellFounded (InvImage (· < ·) fun i => p.size - (p.ancestors i).length) :=
    InvImage.wf _ Nat.lt_wfRel.wf
  refine Subrelation.wf (fun {child parent} hparent => ?_) hfinite
  have hbound : (p.ancestors child).length < p.size :=
    h.length_ancestorsWithin hparent.child_lt p.size
  have hdeeper := h.length_ancestors hparent
  change p.size - (p.ancestors child).length < p.size - (p.ancestors parent).length
  omega

/-- Below an element with a property, or at it, is one that has the property and no child that has. -/
theorem IsForest.exists_innermost {P : Nat → Prop} (hi : P i) :
    ∃ k, Relation.ReflTransGen p.IsParent i k ∧ P k ∧ ∀ child, p.IsParent k child → ¬ P child := by
  induction i using h.wellFounded_child.induction with
  | _ i ih =>
    by_cases hchild : ∃ child, p.IsParent i child ∧ P child
    · obtain ⟨child, hparent, hP⟩ := hchild
      obtain ⟨k, hbelow, hk⟩ := ih child hparent hP
      exact ⟨k, .head hparent hbelow, hk⟩
    · exact ⟨i, .refl, hi, fun child hparent hP => hchild ⟨child, hparent, hP⟩⟩

end Walkthrough.Page
