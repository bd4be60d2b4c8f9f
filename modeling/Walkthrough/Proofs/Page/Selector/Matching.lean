import Walkthrough.Page.Selector.Parser
import Walkthrough.Proofs.Page.Ancestors

namespace Walkthrough.Selector

def Compound.FitsAt (c : Compound) (p : Page) (i : Nat) : Prop :=
  ∃ e, p.element? i = some e ∧ c.fits e = true

/-- `outer` stands above `inner` as the combinator says. -/
def Combinator.Joins (p : Page) (outer inner : Nat) : Combinator → Prop
  | child => p.IsParent outer inner
  | descendant => p.IsAncestor outer inner

/-- Each element of a path stands above the next one as the combinator between them says. -/
def Joined (p : Page) (links : List Combinator) (path : List Nat) : Prop :=
  ∀ k link, links[k]? = some link →
    ∃ outer inner, path[k]? = some outer ∧ path[k + 1]? = some inner ∧ link.Joins p outer inner

theorem joined_concat_iff {p : Page} {links : List Combinator} {path : List Nat}
    (hlength : path.length = links.length + 1) {link : Combinator} {i : Nat} :
    Joined p (links ++ [link]) (path ++ [i]) ↔
      Joined p links path ∧ ∃ j, path.getLast? = some j ∧ link.Joins p j i := by
  have hlast : path.getLast? = path[links.length]? := by
    rw [List.getLast?_eq_getElem?, hlength]
    rfl
  have hend : (path ++ [i])[links.length + 1]? = some i := by
    rw [← hlength, List.getElem?_concat_length]
  constructor
  · intro h
    constructor
    · intro k l hl
      have hk : k < links.length := (List.getElem?_eq_some_iff.mp hl).1
      obtain ⟨a, b, ha, hb, hab⟩ := h k l (by rw [List.getElem?_append_left hk, hl])
      rw [List.getElem?_append_left (by omega)] at ha hb
      exact ⟨a, b, ha, hb, hab⟩
    · obtain ⟨a, b, ha, hb, hab⟩ := h links.length link List.getElem?_concat_length
      rw [List.getElem?_append_left (by omega), ← hlast] at ha
      obtain rfl := Option.some.inj (hb.symm.trans hend)
      exact ⟨a, ha, hab⟩
  · rintro ⟨hpath, j, hj, hjoin⟩ k l hl
    rcases Nat.lt_or_ge k links.length with hk | hk
    · rw [List.getElem?_append_left hk] at hl
      obtain ⟨a, b, ha, hb, hab⟩ := hpath k l hl
      refine ⟨a, b, ?_, ?_, hab⟩
      · rw [List.getElem?_append_left (by omega), ha]
      · rw [List.getElem?_append_left (by omega), hb]
    · have hbound : k < (links ++ [link]).length := (List.getElem?_eq_some_iff.mp hl).1
      rw [List.length_append, List.length_singleton] at hbound
      obtain rfl : k = links.length := by omega
      obtain rfl := Option.some.inj (List.getElem?_concat_length.symm.trans hl)
      exact ⟨j, i, by rw [List.getElem?_append_left (by omega), ← hlast, hj], hend, hjoin⟩

namespace Complex

def compounds : Complex → List Compound
  | one c => [c]
  | within outer _ c => outer.compounds ++ [c]

def links : Complex → List Combinator
  | one _ => []
  | within outer link _ => outer.links ++ [link]

theorem length_compounds (c : Complex) : c.compounds.length = c.links.length + 1 := by
  induction c with
  | one c => rfl
  | within outer link c ih => simp [compounds, links, ih]

/-- Elements that match the compounds and stand above each other as the combinators between them say. -/
structure Spans (c : Complex) (p : Page) (path : List Nat) : Prop where
  fits : List.Forall₂ (·.FitsAt p) c.compounds path
  joined : Joined p c.links path

section Spans

variable {p : Page} {path : List Nat} {i : Nat}

theorem length_of_fits {c : Complex} (h : List.Forall₂ (·.FitsAt p) c.compounds path) :
    path.length = c.links.length + 1 :=
  h.length_eq ▸ c.length_compounds

theorem spans_one_iff {c : Compound} : (one c).Spans p path ↔ ∃ i, path = [i] ∧ c.FitsAt p i := by
  constructor
  · intro h
    obtain ⟨i, rest, hfits, hrest, rfl⟩ := List.forall₂_cons_left_iff.mp h.fits
    obtain rfl := List.forall₂_nil_left_iff.mp hrest
    exact ⟨i, rfl, hfits⟩
  · rintro ⟨i, rfl, hfits⟩
    exact ⟨.cons hfits .nil, nofun⟩

/-- A path for a longer selector is one for the selector without its last compound, and an element that
matches this compound and is joined to the end of that path. -/
theorem spans_within_iff {outer : Complex} {link : Combinator} {c : Compound} :
    (within outer link c).Spans p (path ++ [i]) ↔
      outer.Spans p path ∧ c.FitsAt p i ∧ ∃ j, path.getLast? = some j ∧ link.Joins p j i := by
  have hfits : List.Forall₂ (·.FitsAt p) (outer.compounds ++ [c]) (path ++ [i]) ↔
      List.Forall₂ (·.FitsAt p) outer.compounds path ∧ c.FitsAt p i := by
    rw [← List.forall₂_reverse_iff, List.reverse_concat, List.reverse_concat, List.forall₂_cons,
      List.forall₂_reverse_iff, and_comm]
  constructor
  · intro h
    obtain ⟨hpath, hc⟩ := hfits.mp h.fits
    obtain ⟨hjoined, hend⟩ := (joined_concat_iff (length_of_fits hpath)).mp h.joined
    exact ⟨⟨hpath, hjoined⟩, hc, hend⟩
  · rintro ⟨hpath, hc, hend⟩
    have hjoined := (joined_concat_iff (length_of_fits hpath.fits)).mpr ⟨hpath.joined, hend⟩
    exact ⟨hfits.mpr ⟨hpath.fits, hc⟩, hjoined⟩

end Spans

variable {p : Page}

theorem fitsAt_iff {c : Compound} {i : Nat} : (p.element? i).any c.fits = true ↔ c.FitsAt p i :=
  Option.any_eq_true _ _

/-- The search goes back to every element that a combinator can mean. -/
theorem fits_within_iff (hp : p.IsForest) {outer : Complex} {link : Combinator} {c : Compound}
    {i : Nat} : (within outer link c).fits p i = true ↔
      c.FitsAt p i ∧ ∃ j, link.Joins p j i ∧ outer.fits p j = true := by
  cases link with
  | child =>
    rw [fits, Bool.and_eq_true, fitsAt_iff, Option.any_eq_true]
    rfl
  | descendant =>
    rw [fits, Bool.and_eq_true, fitsAt_iff, List.any_eq_true]
    refine and_congr_right fun _ => exists_congr fun j => ?_
    rw [hp.mem_ancestors_iff]
    rfl

theorem fits_iff_spans (hp : p.IsForest) (c : Complex) (i : Nat) :
    c.fits p i = true ↔ ∃ path, c.Spans p path ∧ path.getLast? = some i := by
  induction c generalizing i with
  | one c =>
    rw [fits, fitsAt_iff]
    constructor
    · exact fun hc => ⟨[i], spans_one_iff.mpr ⟨i, rfl, hc⟩, rfl⟩
    · rintro ⟨path, hpath, hlast⟩
      obtain ⟨j, rfl, hc⟩ := spans_one_iff.mp hpath
      obtain rfl := Option.some.inj hlast
      exact hc
  | within outer link c ih =>
    rw [fits_within_iff hp]
    constructor
    · rintro ⟨hc, j, hjoin, hj⟩
      obtain ⟨path, hpath, hlast⟩ := (ih j).mp hj
      exact ⟨path ++ [i], spans_within_iff.mpr ⟨hpath, hc, j, hlast, hjoin⟩, List.getLast?_concat⟩
    · rintro ⟨path, hpath, hlast⟩
      obtain ⟨front, rfl⟩ := List.getLast?_eq_some_iff.mp hlast
      obtain ⟨hfront, hc, j, hj, hjoin⟩ := spans_within_iff.mp hpath
      exact ⟨hc, j, hjoin, (ih j).mpr ⟨front, hfront, hj⟩⟩

end Complex

/-- On a page whose parents form a forest an element matches a selector if and only if one of the
alternatives has a path of elements that ends there, each of which matches its compound and stands
above the next one as the combinator says, however far up. No search for it runs up for ever. -/
theorem fits_iff_path (s : Selector) {p : Page} (hp : p.IsForest) (i : Nat) :
    (s.fits p i = true ↔ ∃ c ∈ s, ∃ path, c.Spans p path ∧ path.getLast? = some i) ∧
      ∀ j, p.AscentEnds j := by
  refine ⟨?_, hp.ascentEnds⟩
  unfold fits
  rw [List.any_eq_true]
  exact exists_congr fun c => and_congr_right fun _ => c.fits_iff_spans hp i

/-- The parent of the nearest `b` above `c` is no `a`; that of the next one is. Parents may follow
their children in the document. -/
theorem fits_iff_path_backtracks :
    let element (tag : String) (parent : Option Nat) : Element := ⟨tag, [], "", parent, false⟩
    let p : Page := ⟨[element "c" (some 2), element "a" none, element "b" (some 3),
      element "b" (some 1)], [], [], ⟨0, 0⟩⟩
    let named (tag : String) : Compound := .tests (some tag) none [] [] []
    let s : Selector := [.within (.within (.one (named "a")) .child (named "b")) .descendant (named "c")]
    p.IsForest ∧ s.fits p 0 = true ∧
      ∃ c ∈ s, ∃ path, c.Spans p path ∧ path.getLast? = some 0 := by
  intro element p named s
  have hp : p.IsForest := by
    refine Page.isForest_of_rank (fun i => [3, 0, 2, 1].getD i 0) fun j i hparent => ?_
    have hi : i < 4 := hparent.child_lt
    have hranks : ∀ i < 4, ∀ j, p.parent? i = some j → j < 4 ∧
        [3, 0, 2, 1].getD j 0 < [3, 0, 2, 1].getD i 0 := by
      decide
    exact hranks i hi j hparent
  have hfits : s.fits p 0 = true := by decide +kernel
  exact ⟨hp, hfits, (fits_iff_path s hp 0).1.mp hfits⟩

end Walkthrough.Selector
