import Walkthrough.Page.Query
import Walkthrough.Proofs.Page.Selector.Grammar
import Walkthrough.Proofs.Page.Selector.Matching
import Walkthrough.Walk.Action.Clicking

namespace Walkthrough.Selector

open Text

namespace Spells

variable {u v : List Char} {s t : Selector}

theorem append_left (h : Spells u s) {blanks : List Char}
    (hblanks : ∀ x ∈ blanks, isBlank x = true) : Spells (blanks ++ u) s := by
  cases h with
  | one hread => exact .one (readComplex_append_left hread hblanks)
  | cons hread hrest => exact .cons (readComplex_append_left hread hblanks) hrest

theorem append (hs : Spells u s) (ht : Spells v t) : Spells (u ++ ',' :: v) (s ++ t) := by
  induction hs with
  | one hread =>
    have hends : EndsCompound (',' :: v) := by
      rintro _ ⟨⟩
      decide
    have hcomma : EndsComplex (dropBlanks (',' :: v)) := by
      rintro _ ⟨⟩
      exact .inl rfl
    exact .cons (readComplex_trans hread hends (.stop hcomma)) ht
  | cons hread _ ih => exact .cons (readComplex_append_tail hread (List.cons_ne_nil _ _) _) ih

end Spells

theorem parse_append {s t : String} {l m : Selector} (hs : parse s = .ok l) (ht : parse t = .ok m) :
    parse (s ++ ", " ++ t) = .ok (l ++ m) := by
  have hblank : ∀ x ∈ [' '], isBlank x = true := List.forall_mem_singleton.mpr (by decide)
  have hspells := (parse_eq_ok_iff.mp hs).append ((parse_eq_ok_iff.mp ht).append_left hblank)
  rw [parse_eq_ok_iff, String.toList_append, String.toList_append, List.append_assoc]
  exact hspells

namespace Complex

/-- The same compounds, the first of them somewhere within what `outer` matches. -/
def inside : Complex → Complex → Complex
  | one c, outer => within outer .descendant c
  | within first link c, outer => within (first.inside outer) link c

variable {outer : Complex}

@[simp] theorem compounds_inside (c : Complex) :
    (c.inside outer).compounds = outer.compounds ++ c.compounds := by
  induction c with
  | one c => rfl
  | within first link c ih => rw [inside, compounds, compounds, ih, List.append_assoc]

@[simp] theorem links_inside (c : Complex) :
    (c.inside outer).links = outer.links ++ .descendant :: c.links := by
  induction c with
  | one c => rfl
  | within first link c ih =>
    rw [inside, links, links, ih, List.append_assoc, List.cons_append]

theorem Spans.ne_nil {c : Complex} {p : Page} {path : List Nat} (h : c.Spans p path) :
    path ≠ [] := by
  rintro rfl
  exact absurd (length_of_fits h.fits) (Nat.succ_ne_zero _).symm

/-- A path for a selector within another is a path for the selector below an element that the other
matches. -/
theorem fits_inside_iff {p : Page} (hp : p.IsForest) (c : Complex) (i : Nat) :
    (c.inside outer).fits p i = true ↔
      ∃ path, c.Spans p path ∧ path.getLast? = some i ∧
        ∃ first, path.head? = some first ∧ ∃ k, p.IsAncestor k first ∧ outer.fits p k = true := by
  -- from the right, where the path ends; its first element is settled by the first compound alone
  induction c generalizing i with
  | one c =>
    rw [inside, fits_within_iff hp]
    constructor
    · rintro ⟨hc, k, hk, houter⟩
      exact ⟨[i], spans_one_iff.mpr ⟨i, rfl, hc⟩, rfl, i, rfl, k, hk, houter⟩
    · rintro ⟨path, hpath, hlast, first, hfirst, k, hk, houter⟩
      obtain ⟨j, rfl, hc⟩ := spans_one_iff.mp hpath
      obtain rfl := Option.some.inj hlast
      obtain rfl := Option.some.inj hfirst
      exact ⟨hc, k, hk, houter⟩
  | within front link c ih =>
    rw [inside, fits_within_iff hp]
    constructor
    · rintro ⟨hc, j, hjoin, hj⟩
      obtain ⟨path, hpath, hlast, first, hfirst, habove⟩ := (ih j).mp hj
      refine ⟨path ++ [i], spans_within_iff.mpr ⟨hpath, hc, j, hlast, hjoin⟩,
        List.getLast?_concat, first, ?_, habove⟩
      rw [List.head?_append_of_ne_nil _ hpath.ne_nil, hfirst]
    · rintro ⟨path, hpath, hlast, first, hfirst, habove⟩
      obtain ⟨path, rfl⟩ := List.getLast?_eq_some_iff.mp hlast
      obtain ⟨hfront, hc, j, hj, hjoin⟩ := spans_within_iff.mp hpath
      rw [List.head?_append_of_ne_nil _ hfront.ne_nil] at hfirst
      exact ⟨hc, j, hjoin, (ih j).mpr ⟨path, hfront, hj, first, hfirst, habove⟩⟩

end Complex

/-- Links read the same behind a selector and behind the same selector within another. -/
theorem ReadsLinks.inside {left c : Complex} {cs r : List Char} (h : ReadsLinks left cs c r)
    (outer : Complex) : ReadsLinks (left.inside outer) cs (c.inside outer) r := by
  induction h with
  | stop hends => exact .stop hends
  | turn hlink _ ih => exact .turn hlink ih

theorem readComplex_inside {u v : List Char} {c d : Complex} (hc : readComplex u = .ok (c, []))
    (hd : readComplex v = .ok (d, [])) : readComplex (u ++ ' ' :: v) = .ok (d.inside c, []) := by
  obtain ⟨first, rest, hread, hlinks⟩ := readComplex_eq_ok_iff.mp hd
  have hends : EndsCompound (' ' :: v) := by
    rintro _ ⟨⟩
    decide
  have hlink : ReadsLink (' ' :: v) .descendant first rest := by
    refine .descendant (fun hsign => ?_) ?_ hread
    · exact absurd (not_mem_of_readCompound hread '>' hsign) (by decide)
    · exact Nat.lt_succ_of_le (length_dropBlanks_le v)
  exact readComplex_trans hc hends (.turn hlink (hlinks.inside c))

theorem parse_inside {s t : String} {c d : Complex} (hs : parse s = .ok [c])
    (ht : parse t = .ok [d]) : parse (s ++ " " ++ t) = .ok [d.inside c] := by
  rw [parse_eq_ok_iff, spells_singleton_iff] at *
  rw [String.toList_append, String.toList_append, List.append_assoc]
  exact readComplex_inside hs ht

theorem parse_inside_any {texts : List String} (hne : texts ≠ [])
    (hsingle : ∀ text ∈ texts, ∃ c, parse text = .ok [c]) {t : String} {d : Complex}
    (ht : parse t = .ok [d]) :
    ∃ s, parse (", ".intercalate (texts.map fun text => text ++ " " ++ t)) = .ok s ∧
      ∀ e, e ∈ s ↔ ∃ text ∈ texts, ∃ c, parse text = .ok [c] ∧ e = d.inside c := by
  induction texts with
  | nil => exact absurd rfl hne
  | cons text texts ih =>
    obtain ⟨⟨c, hc⟩, hlater⟩ := List.forall_mem_cons.mp hsingle
    have hfirst := parse_inside hc ht
    have hhere (e : Complex) : e = d.inside c ↔ ∃ c, parse text = .ok [c] ∧ e = d.inside c := by
      constructor
      · exact fun he => ⟨c, hc, he⟩
      · rintro ⟨c', hc', rfl⟩
        rw [List.singleton_inj.mp (Except.ok.inj (hc'.symm.trans hc))]
    cases texts with
    | nil =>
      refine ⟨[d.inside c], ?_, fun e => ?_⟩
      · rw [List.map_singleton, String.intercalate_singleton, hfirst]
      · rw [List.mem_singleton, hhere]
        simp
    | cons second texts =>
      obtain ⟨s, hs, hmem⟩ := ih (List.cons_ne_nil _ _) hlater
      refine ⟨d.inside c :: s, ?_, fun e => ?_⟩
      · rw [List.map_cons, List.map_cons, String.intercalate_cons_cons]
        exact parse_append hfirst hs
      · rw [List.mem_cons, hhere, hmem]
        simp only [List.mem_cons, exists_eq_or_imp]

theorem carousels_single : ∀ text ∈ Script.carousels, ∃ c, parse text = .ok [c] := by
  have hcarousel : parse "[class*=\"carousel\"]" =
      .ok [.one (.tests none none [] [⟨"class", .containing, "carousel", false⟩] [])] := by
    with_unfolding_all rfl
  have hslider : parse "[class*=\"slider\"]" =
      .ok [.one (.tests none none [] [⟨"class", .containing, "slider", false⟩] [])] := by
    with_unfolding_all rfl
  have hswiper : parse ".swiper" = .ok [.one (.tests none none ["swiper"] [] [])] := by
    with_unfolding_all rfl
  have hgallery : parse ".gallery" = .ok [.one (.tests none none ["gallery"] [] [])] := by
    with_unfolding_all rfl
  simp only [Script.carousels, List.forall_mem_cons, List.not_mem_nil, false_imp_iff, implies_true,
    and_true]
  exact ⟨⟨_, hcarousel⟩, ⟨_, hslider⟩, ⟨_, hswiper⟩, ⟨_, hgallery⟩⟩

theorem mem_select_iff {s : Selector} {p : Page} {i : Nat} :
    i ∈ s.select p ↔ s.fits p i = true := by
  unfold select Page.indices
  rw [List.mem_filter, List.mem_range, and_iff_right_iff_imp]
  intro h
  obtain ⟨c, -, hc⟩ := List.any_eq_true.mp h
  obtain ⟨e, he⟩ : ∃ e, p.element? i = some e := by
    cases he : p.element? i with
    | some e => exact ⟨e, rfl⟩
    | none => cases c <;> simp [Complex.fits, he] at hc
  exact (List.getElem?_eq_some_iff.mp he).1

theorem find_css {source : String} {s : Selector} (h : parse source = .ok s) (p : Page) :
    p.find (.css source none) = .ok (s.select p) := by
  unfold Page.find
  dsimp only
  rw [h]
  dsimp only [Option.all_none]
  rw [List.filter_true]

theorem fits_singleton {c : Complex} {p : Page} {i : Nat} : fits [c] p i = c.fits p i :=
  Bool.or_false _

/-- Selectors are put together by putting their texts together: with a comma and a blank between them
the alternatives of both, with a blank the second one within the first. So what is looked for within
carousels is what the selector matches by a path that starts below a carousel. -/
theorem parse_composes (s t : String) :
    (∀ l m, parse s = .ok l → parse t = .ok m → parse (s ++ ", " ++ t) = .ok (l ++ m)) ∧
      ∀ d, parse t = .ok [d] →
        (∀ c, parse s = .ok [c] → ∃ e, parse (s ++ " " ++ t) = .ok [e] ∧
          e.compounds = c.compounds ++ d.compounds ∧
          e.links = c.links ++ .descendant :: d.links) ∧
        ∀ p : Page, p.IsForest → ∃ found, p.find (.css (Script.withinCarousels t) none) = .ok found ∧
          ∀ i, i ∈ found ↔ ∃ path, d.Spans p path ∧ path.getLast? = some i ∧
            ∃ first, path.head? = some first ∧ ∃ k, p.IsAncestor k first ∧
              ∃ text ∈ Script.carousels, ∃ l, parse text = .ok l ∧ l.fits p k = true := by
  refine ⟨fun l m hs ht => parse_append hs ht, fun d ht => ⟨fun c hs => ?_, fun p hp => ?_⟩⟩
  · exact ⟨d.inside c, parse_inside hs ht, Complex.compounds_inside d, Complex.links_inside d⟩
  · have hne : Script.carousels ≠ [] := List.cons_ne_nil _ _
    obtain ⟨w, hw, hmem⟩ := parse_inside_any hne carousels_single ht
    refine ⟨w.select p, find_css hw p, fun i => ?_⟩
    rw [mem_select_iff, fits, List.any_eq_true]
    constructor
    · rintro ⟨e, he, hfits⟩
      obtain ⟨text, htext, c, hc, rfl⟩ := (hmem e).mp he
      obtain ⟨path, hpath, hlast, first, hfirst, k, hk, hck⟩ :=
        (Complex.fits_inside_iff hp d i).mp hfits
      exact ⟨path, hpath, hlast, first, hfirst, k, hk, text, htext, [c], hc,
        fits_singleton.trans hck⟩
    · rintro ⟨path, hpath, hlast, first, hfirst, k, hk, text, htext, l, hl, hlk⟩
      obtain ⟨c, hc⟩ := carousels_single text htext
      obtain rfl := Except.ok.inj (hl.symm.trans hc)
      rw [fits_singleton] at hlk
      exact ⟨d.inside c, (hmem _).mpr ⟨text, htext, c, hc, rfl⟩,
        (Complex.fits_inside_iff hp d i).mpr
          ⟨path, hpath, hlast, first, hfirst, k, hk, hlk⟩⟩

/-- A value with a comma and a blank in it, and blanks around a combinator. Of two images in a list
one is in a carousel. -/
theorem parse_composes_list :
    let named (tag : String) : Compound := .tests (some tag) none [] [] []
    let link : Compound := .tests none none [] [⟨"href", .ending, ", b", false⟩] []
    let image : Complex := .within (.one (named "li")) .child (named "img")
    let s := "[href$=', b']"
    let t := " li > img "
    let element (tag : String) (parent : Option Nat) : Element := ⟨tag, [], "", parent, false⟩
    let p : Page := ⟨[⟨"div", [("class", "wide swiper")], "", none, false⟩, element "li" (some 0),
      element "img" (some 1), element "li" none, element "img" (some 3)], [], [], ⟨0, 0⟩⟩
    parse s = .ok [.one link] ∧ parse t = .ok [image] ∧ p.IsForest ∧
      parse (s ++ ", " ++ t) = .ok [.one link, image] ∧
      (∃ e, parse (s ++ " " ++ t) = .ok [e] ∧ e.compounds = [link, named "li", named "img"] ∧
        e.links = [.descendant, .child]) ∧
      p.find (.css (Script.withinCarousels t) none) = .ok [2] ∧
      ∃ path, image.Spans p path ∧ path.getLast? = some 2 ∧ ∃ first, path.head? = some first ∧
        ∃ k, p.IsAncestor k first ∧ ∃ text ∈ Script.carousels, ∃ l, parse text = .ok l ∧
          l.fits p k = true := by
  have hlink : parse "[href$=', b']" =
      .ok [.one (.tests none none [] [⟨"href", .ending, ", b", false⟩] [])] := by
    with_unfolding_all rfl
  have himage : parse " li > img " = .ok [.within (.one (.tests (some "li") none [] [] [])) .child
      (.tests (some "img") none [] [] [])] := by
    with_unfolding_all rfl
  intro named link image s t element p
  have hs : parse s = .ok [.one link] := hlink
  have ht : parse t = .ok [image] := himage
  have hp : p.IsForest := Page.isForest_of_ranks [0, 1, 2, 0, 1] (by decide)
  have hfind : p.find (.css (Script.withinCarousels t) none) = .ok [2] := by decide +kernel
  obtain ⟨hbeside, hwithin⟩ := parse_composes s t
  obtain ⟨hinside, hcarousels⟩ := hwithin image ht
  obtain ⟨found, hfound, hmem⟩ := hcarousels p hp
  obtain rfl : found = [2] := Except.ok.inj (hfound.symm.trans hfind)
  exact ⟨hs, ht, hp, hbeside _ _ hs ht, hinside _ hs, hfind, (hmem 2).mp List.mem_cons_self⟩

end Walkthrough.Selector
