import Walkthrough.Proofs.Page.Selector.Grammar

namespace Walkthrough.Selector

open Text

/-- What a simple selector asks for, other than a tag. -/
inductive Test
  | id (name : String)
  | className (name : String)
  | condition (t : AttributeTest)
  | exclusion (c : Compound)

namespace Test

def fits : Test → Element → Bool
  | id name, e => idFits (some name) e
  | className name, e => classesFit [name] e
  | condition t, e => t.fits e
  | exclusion c, e => !c.fits e

def isId : Test → Bool
  | id _ => true
  | _ => false

end Test

namespace Compound

def add (c : Compound) : Test → Compound
  | .id name => c.addId name
  | .className name => c.addClass name
  | .condition t => c.addAttribute t
  | .exclusion d => c.addExcluded d

def withoutId : Compound → Compound
  | tests tag _ classes attributes excluded => tests tag none classes attributes excluded

variable {c : Compound} {t : Test} {e : Element}

theorem anyFits_append (l : List Compound) (c : Compound) (e : Element) :
    anyFits (l ++ [c]) e = (anyFits l e || c.fits e) := by
  induction l with
  | nil => simp [anyFits]
  | cons d l ih => simp [anyFits, ih, Bool.or_assoc]

theorem fits_add (ht : t.isId = false) : (c.add t).fits e = (c.fits e && t.fits e) := by
  obtain ⟨tag, id, classes, attributes, excluded⟩ := c
  cases t with
  | id name => contradiction
  | className name =>
    simp only [add, addClass, fits, Test.fits, classesFit, List.all_append]
    ac_rfl
  | condition t =>
    simp only [add, addAttribute, fits, Test.fits, List.all_append, List.all_cons, List.all_nil,
      Bool.and_true]
    ac_rfl
  | exclusion d =>
    simp only [add, addExcluded, fits, Test.fits, anyFits_append, Bool.not_or]
    ac_rfl

theorem fits_addId (c : Compound) (name : String) (e : Element) :
    (c.addId name).fits e = (c.withoutId.fits e && idFits (some name) e) := by
  obtain ⟨tag, id, classes, attributes, excluded⟩ := c
  simp only [addId, withoutId, fits, idFits, Option.all_none, Bool.and_true]
  ac_rfl

@[simp] theorem withoutId_addId (c : Compound) (name : String) :
    (c.addId name).withoutId = c.withoutId := by
  cases c
  rfl

theorem withoutId_add (ht : t.isId = false) : (c.add t).withoutId = c.withoutId.add t := by
  cases c
  cases t <;> first | rfl | contradiction

@[simp] theorem isEmpty_add (c : Compound) (t : Test) : (c.add t).isEmpty = false := by
  cases c
  cases t <;> simp [add, addId, addClass, addAttribute, addExcluded, isEmpty]

end Compound

/-- The list without those that are replaced by a later one of their kind. -/
def kept (replaces : α → Bool) : List α → List α
  | [] => []
  | a :: rest => if replaces a && rest.any replaces then kept replaces rest else a :: kept replaces rest

/-- Every test but an identifier narrows a compound. An identifier also takes back the one that the
compound asked for. -/
theorem fits_foldl_add (tests : List Test) (c : Compound) (e : Element) :
    (tests.foldl (·.add ·) c).fits e = true ↔
      (if tests.any Test.isId then c.withoutId else c).fits e = true ∧
        ∀ t ∈ kept Test.isId tests, t.fits e = true := by
  induction tests generalizing c with
  | nil => simp [kept]
  | cons t tests ih =>
    rw [List.foldl_cons, ih, List.any_cons, kept]
    cases ht : t.isId with
    | false =>
      have hadd : (if tests.any Test.isId then (c.add t).withoutId else c.add t) =
          (if tests.any Test.isId then c.withoutId else c).add t := by
        rw [Compound.withoutId_add ht]
        split_ifs <;> rfl
      rw [hadd, Compound.fits_add ht, Bool.false_or, Bool.false_and, if_neg Bool.false_ne_true,
        List.forall_mem_cons, Bool.and_eq_true, and_assoc]
    | true =>
      obtain ⟨name, rfl⟩ : ∃ name, t = .id name := by
        cases t <;> first | exact ⟨_, rfl⟩ | contradiction
      change (if _ then (c.addId name).withoutId else c.addId name).fits e = true ∧ _ ↔ _
      rw [Compound.withoutId_addId, Bool.true_or, Bool.true_and, if_pos rfl]
      split_ifs
      · rfl
      · rw [Compound.fits_addId, List.forall_mem_cons, Bool.and_eq_true, and_assoc]
        rfl

inductive Simple : String → Test → Prop
  | id {name : String} (hname : IsName name) : Simple ("#" ++ name) (.id name)
  | className {name : String} (hname : IsName name) : Simple ("." ++ name) (.className name)
  | condition {text : String} {t : AttributeTest} (hread : readAttribute text.toList = .ok (t, [])) :
      Simple ("[" ++ text) (.condition t)
  | exclusion {name text : String} {c : Compound} (hname : IsName name)
      (hnot : lowercase name = "not") (hparse : parse text = .ok [.one c]) :
      Simple (":" ++ name ++ "(" ++ text ++ ")") (.exclusion c)

theorem ReadsLinks.eq_of_one {left : Complex} {c : Compound} {cs r : List Char}
    (h : ReadsLinks left cs (.one c) r) : left = .one c ∧ r = dropBlanks cs := by
  generalize hone : Complex.one c = d at h
  induction h with
  | stop _ => exact ⟨rfl, rfl⟩
  | turn _ _ ih => nomatch (ih hone).1.trans hone.symm

/-- A text of one compound is read as it, up to blanks at the end. -/
theorem parse_one_iff {text : String} {c : Compound} : parse text = .ok [.one c] ↔
    ∃ blanks, (∀ x ∈ blanks, isBlank x = true) ∧
      readCompound (dropBlanks text.toList) = .ok (c, blanks) := by
  rw [parse_eq_ok_iff, spells_singleton_iff, readComplex_eq_ok_iff]
  constructor
  · rintro ⟨d, rest, hread, hlinks⟩
    obtain ⟨hd, hrest⟩ := hlinks.eq_of_one
    obtain rfl := Complex.one.inj hd
    exact ⟨rest, List.dropWhile_eq_nil_iff.mp hrest.symm, hread⟩
  · rintro ⟨blanks, hblanks, hread⟩
    have hstop : ReadsLinks (.one c) ([] : List Char) (.one c) [] := .stop nofun
    have hlinks := hstop.append_left hblanks
    rw [List.append_nil] at hlinks
    exact ⟨c, blanks, hread, hlinks⟩

theorem readTests_not {name text : String} {c : Compound} (hname : IsName name)
    (hnot : lowercase name = "not") (hparse : parse text = .ok [.one c]) (d : Compound)
    (rest : List Char) {n : Nat} (hn : (text.toList ++ ')' :: rest).length < n) :
    readTests (n + 1) d (':' :: (name.toList ++ '(' :: (text.toList ++ ')' :: rest))) =
      readTests n (d.addExcluded c) rest := by
  obtain ⟨blanks, hblanks, hread⟩ := parse_one_iff.mp hparse
  have hne : dropBlanks text.toList ≠ [] := steady_readCompound.ne_nil hread
  have hends : EndsCompound (')' :: rest) := by
    rintro _ ⟨⟩
    decide
  have hlength : (dropBlanks text.toList ++ ')' :: rest).length < n := by
    have hle := length_dropBlanks_le text.toList
    rw [List.length_append] at hn ⊢
    omega
  have hinner := (readsTests hread).tagged hne (fun _ => hends) hlength
  rw [← dropBlanks_append_of_ne hne] at hinner
  refine readTests_exclusion (readName_append hname (endsName_cons (by decide) _)) hnot rfl hinner ?_
  rw [dropBlanks_append_of_blank hblanks]
  rfl

namespace Simple

variable {s : String} {t : Test}

theorem takes (h : Simple s t) : Takes s.toList (·.add t) := by
  cases h with
  | @id name hname =>
    have hid : ∀ i ∈ some name, IsName i := by
      rintro _ ⟨⟩
      exact hname
    rw [String.toList_append]
    exact takes_id hid
  | className hname =>
    rw [String.toList_append]
    exact takes_class hname
  | @condition text t hread =>
    have htext : ("[" ++ text).toList = '[' :: text.toList := by simp
    rw [htext]
    refine .of_turn (by decide) fun {rest} _ c n _ => ?_
    rw [readTests, steady_readAttribute.append hread fun _ => trivial]
    rfl
  | @exclusion name text c hname hnot hparse =>
    have htext : (":" ++ name ++ "(" ++ text ++ ")").toList =
        ':' :: (name.toList ++ '(' :: (text.toList ++ [')'])) := by simp
    rw [htext]
    refine .of_turn (by decide) fun {rest} _ d n hn => ?_
    have hassoc : name.toList ++ '(' :: (text.toList ++ [')']) ++ rest =
        name.toList ++ '(' :: (text.toList ++ ')' :: rest) := by simp
    rw [hassoc] at hn ⊢
    refine readTests_not hname hnot hparse d rest ?_
    simp only [List.length_cons, List.length_append] at hn ⊢
    omega

theorem opens (h : Simple s t) : ∃ x cs, s.toList = x :: cs ∧ Opens x := by
  cases h with
  | id => exact ⟨'#', _, String.toList_append, .inr (by decide)⟩
  | className => exact ⟨'.', _, String.toList_append, .inr (by decide)⟩
  | condition => exact ⟨'[', _, String.toList_append, .inr (by decide)⟩
  | exclusion => exact ⟨':', _, by simp; rfl, .inr (by decide)⟩

end Simple

def namesId (s : String) : Bool :=
  s.toList.head? == some '#'

theorem Simple.namesId_eq {s : String} {t : Test} (h : Simple s t) : namesId s = t.isId := by
  cases h <;> simp [namesId, Test.isId]

def NamesTag (s : String) : Prop :=
  s = "*" ∨ IsName s

/-- What a compound starts with. -/
def leading (tag : Option String) : Compound :=
  .tests (tag.map lowercase) none [] [] []

theorem readTag_leading {tag : Option String} (htag : ∀ s ∈ tag, NamesTag s) {rest : List Char}
    (hrest : Follows rest) :
    readTag (tag.toList.flatMap String.toList ++ rest) = (leading tag, rest) := by
  cases tag with
  | none =>
    have hstar : '*' ∉ separators := by decide
    exact readTag_none hrest.endsName fun hhead => hstar (hrest _ hhead)
  | some s =>
    rw [Option.toList_some, List.flatMap_singleton]
    rcases htag s rfl with rfl | hname
    · have hlower : lowercase "*" = "*" := by decide
      unfold leading
      rw [Option.map_some, hlower]
      rfl
    · exact readTag_name hname hrest.endsName

theorem takes_simples {texts : List String} {tests : List Test}
    (h : List.Forall₂ Simple texts tests) :
    Takes (texts.flatMap String.toList) (tests.foldl (·.add ·) ·) := by
  induction h with
  | nil => exact .nil
  | cons hfirst _ ih => exact hfirst.takes.append ih

theorem isEmpty_foldl_add (tests : List Test) (c : Compound) :
    (tests.foldl (·.add ·) c).isEmpty = (c.isEmpty && tests.isEmpty) := by
  induction tests generalizing c with
  | nil => simp
  | cons t tests ih => simp [ih]

section Written

variable {tag : Option String} (htag : ∀ s ∈ tag, NamesTag s) {texts : List String}
  {tests : List Test} (htexts : List.Forall₂ Simple texts tests) (hsome : tag.toList ++ texts ≠ [])
include htag htexts hsome

theorem opens_written :
    ∃ x cs, (tag.toList ++ texts).flatMap String.toList = x :: cs ∧ Opens x := by
  cases tag with
  | some s =>
    rcases htag s rfl with rfl | hname
    · exact ⟨'*', _, rfl, .inr (by decide)⟩
    · obtain ⟨x, cs, hcs⟩ := List.exists_cons_of_ne_nil hname.1
      refine ⟨x, cs ++ texts.flatMap String.toList, ?_, .inl (hname.2 x (hcs ▸ List.mem_cons_self))⟩
      rw [Option.toList_some, List.singleton_append, List.flatMap_cons, hcs, List.cons_append]
  | none =>
    cases htexts with
    | nil => exact absurd rfl hsome
    | @cons s t texts tests hfirst hrest =>
      obtain ⟨x, cs, hcs, hx⟩ := hfirst.opens
      refine ⟨x, cs ++ texts.flatMap String.toList, ?_, hx⟩
      rw [Option.toList_none, List.nil_append, List.flatMap_cons, hcs, List.cons_append]

/-- Simple selectors one after the other are read as the compound of what they ask for. -/
theorem parse_join : parse (String.join (tag.toList ++ texts)) =
    .ok [.one (tests.foldl (·.add ·) (leading tag))] := by
  have htakes := takes_simples htexts
  have hnil : Follows [] := nofun
  have hend : EndsCompound [] := nofun
  have hfollows := htakes.follows hnil
  rw [parse_one_iff, String.toList_join]
  refine ⟨[], List.forall_mem_nil _, ?_⟩
  obtain ⟨x, cs, hcs, hx⟩ := opens_written htag htexts hsome
  rw [dropBlanks_eq_self (by rw [hcs]; rintro _ ⟨⟩; exact hx.not_blank)]
  rw [List.flatMap_append]
  rw [List.append_nil] at hfollows
  unfold readCompound
  rw [readTag_leading htag hfollows]
  obtain ⟨n, hn, hread⟩ := htakes.reads hnil (leading tag)
    ((tag.toList.flatMap String.toList ++ texts.flatMap String.toList).length + 1)
    (by simp only [List.length_append, List.append_nil]; omega)
  rw [List.append_nil] at hread
  have hfull : (tests.foldl (·.add ·) (leading tag)).isEmpty = false := by
    rw [isEmpty_foldl_add]
    cases tag with
    | some s => rfl
    | none =>
      cases htexts with
      | nil => exact absurd rfl hsome
      | cons _ _ => rfl
  exact hread.trans (readTests_end hfull hend hn)

end Written

def MatchesAlone (s : String) (e : Element) : Prop :=
  ∃ c, parse s = .ok [.one c] ∧ c.fits e = true

theorem matchesAlone_iff {s : String} {c : Compound} (h : parse s = .ok [.one c]) (e : Element) :
    MatchesAlone s e ↔ c.fits e = true := by
  constructor
  · rintro ⟨d, hd, hfits⟩
    rw [h] at hd
    obtain rfl := Complex.one.inj (List.singleton_inj.mp (Except.ok.inj hd))
    exact hfits
  · exact fun hfits => ⟨c, h, hfits⟩

theorem fits_leading_none (e : Element) : (leading none).fits e = true := by
  simp [leading, Compound.fits, Compound.anyFits, tagFits, idFits, classesFit]

theorem fits_foldl_leading (tag : Option String) (tests : List Test) (e : Element) :
    (tests.foldl (·.add ·) (leading tag)).fits e = true ↔
      (leading tag).fits e = true ∧ ∀ t ∈ kept Test.isId tests, t.fits e = true := by
  have hid : (leading tag).withoutId = leading tag := rfl
  rw [fits_foldl_add, hid, ite_self]

theorem Simple.parse_eq {s : String} {t : Test} (h : Simple s t) :
    parse s = .ok [.one ((leading none).add t)] := by
  have htag : ∀ s ∈ (none : Option String), NamesTag s := nofun
  have hparse := parse_join htag (.cons h .nil) (List.cons_ne_nil _ _)
  have hjoin : String.join ((none : Option String).toList ++ [s]) = s := by simp
  rwa [hjoin] at hparse

theorem Simple.matchesAlone_iff {s : String} {t : Test} (h : Simple s t) (e : Element) :
    MatchesAlone s e ↔ t.fits e = true := by
  have hfits := fits_foldl_leading none [t] e
  rw [and_iff_right (fits_leading_none e)] at hfits
  refine (Selector.matchesAlone_iff h.parse_eq e).trans (hfits.trans ?_)
  simp [kept]

theorem NamesTag.matchesAlone_iff {s : String} (h : NamesTag s) (e : Element) :
    MatchesAlone s e ↔ (leading (some s)).fits e = true := by
  have htag : ∀ s' ∈ some s, NamesTag s' := by
    rintro _ ⟨⟩
    exact h
  have hparse := parse_join htag .nil (List.cons_ne_nil _ _)
  have hjoin : String.join ((some s).toList ++ []) = s := by simp
  rw [hjoin] at hparse
  exact Selector.matchesAlone_iff hparse e

section Kept

variable {replaces : α → Bool} {l : List α}

theorem kept_subset : kept replaces l ⊆ l := by
  induction l with
  | nil => exact List.Subset.refl _
  | cons a l ih =>
    rw [kept]
    split_ifs
    · exact List.subset_cons_of_subset _ ih
    · exact List.cons_subset_cons _ ih

/-- Nothing is lost if all that could replace each other are the same. -/
theorem mem_kept_of_eq (h : ∀ a ∈ l, ∀ b ∈ l, replaces a = true → replaces b = true → a = b)
    {a : α} (ha : a ∈ l) : a ∈ kept replaces l := by
  induction l with
  | nil => contradiction
  | cons b l ih =>
    have hlater := ih fun a ha b hb =>
      h a (List.mem_cons_of_mem _ ha) b (List.mem_cons_of_mem _ hb)
    rw [kept]
    split_ifs with hreplaced
    · rcases List.mem_cons.mp ha with rfl | ha
      · obtain ⟨hself, hany⟩ := Bool.and_eq_true_iff.mp hreplaced
        obtain ⟨c, hc, hcreplaces⟩ := List.any_eq_true.mp hany
        obtain rfl := h a List.mem_cons_self c (List.mem_cons_of_mem _ hc) hself hcreplaces
        exact hlater hc
      · exact hlater ha
    · exact List.mem_cons.mpr ((List.mem_cons.mp ha).imp_right hlater)

end Kept

theorem forall₂_kept {texts : List String} {tests : List Test}
    (h : List.Forall₂ Simple texts tests) :
    List.Forall₂ Simple (kept namesId texts) (kept Test.isId tests) := by
  have hany : ∀ {texts tests}, List.Forall₂ Simple texts tests →
      texts.any namesId = tests.any Test.isId := by
    intro texts tests h
    induction h with
    | nil => rfl
    | cons hfirst _ ih => rw [List.any_cons, List.any_cons, hfirst.namesId_eq, ih]
  induction h with
  | nil => exact .nil
  | cons hfirst hrest ih =>
    rw [kept, kept, hfirst.namesId_eq, hany hrest]
    split_ifs
    · exact ih
    · exact .cons hfirst ih

theorem forall_matchesAlone_iff {texts : List String} {tests : List Test}
    (h : List.Forall₂ Simple texts tests) (e : Element) :
    (∀ s ∈ texts, MatchesAlone s e) ↔ ∀ t ∈ tests, t.fits e = true := by
  induction h with
  | nil => simp
  | cons hfirst _ ih =>
    rw [List.forall_mem_cons, List.forall_mem_cons, hfirst.matchesAlone_iff, ih]

theorem exists_tests {texts : List String} (h : ∀ s ∈ texts, ∃ t, Simple s t) :
    ∃ tests, List.Forall₂ Simple texts tests := by
  induction texts with
  | nil => exact ⟨[], .nil⟩
  | cons s texts ih =>
    obtain ⟨⟨t, ht⟩, hrest⟩ := List.forall_mem_cons.mp h
    obtain ⟨tests, htests⟩ := ih hrest
    exact ⟨t :: tests, .cons ht htests⟩

theorem parse_not {s : String} {c : Compound} (h : parse s = .ok [.one c]) :
    ∃ d, parse (":not(" ++ s ++ ")") = .ok [.one d] ∧ ∀ e, d.fits e = !c.fits e := by
  have hname : IsName "not" := by decide
  have hsimple : Simple (":not(" ++ s ++ ")") (.exclusion c) := .exclusion hname (by decide) h
  refine ⟨_, hsimple.parse_eq, fun e => ?_⟩
  rw [Compound.fits_add rfl, fits_leading_none, Bool.true_and]
  rfl

/-- Simple selectors one after the other, a tag or the sign for any only in front, are one compound. An
element passes it if it matches each of them alone, except for identifiers with another one behind
them; so it is each of them where no two identifiers differ. An exclusion is passed by what does not
pass the compound in it. -/
theorem compound_conjunction {tag : Option String} (htag : ∀ s ∈ tag, NamesTag s)
    {texts : List String} (htexts : ∀ s ∈ texts, ∃ t, Simple s t)
    (hsome : tag.toList ++ texts ≠ []) :
    (∃ c, parse (String.join (tag.toList ++ texts)) = .ok [.one c] ∧
      ∀ e, (c.fits e = true ↔ ∀ s ∈ tag.toList ++ kept namesId texts, MatchesAlone s e) ∧
        ((∀ s ∈ texts, ∀ s' ∈ texts, namesId s = true → namesId s' = true → s = s') →
          (c.fits e = true ↔ ∀ s ∈ tag.toList ++ texts, MatchesAlone s e))) ∧
      ∀ s c, parse s = .ok [.one c] →
        ∃ d, parse (":not(" ++ s ++ ")") = .ok [.one d] ∧ ∀ e, d.fits e = !c.fits e := by
  refine ⟨?_, fun s c h => parse_not h⟩
  obtain ⟨tests, htests⟩ := exists_tests htexts
  refine ⟨_, parse_join htag htests hsome, fun e => ?_⟩
  have hkept : (tests.foldl (·.add ·) (leading tag)).fits e = true ↔
      ∀ s ∈ tag.toList ++ kept namesId texts, MatchesAlone s e := by
    rw [fits_foldl_leading, List.forall_mem_append, forall_matchesAlone_iff (forall₂_kept htests)]
    refine and_congr_left fun _ => ?_
    cases tag with
    | none => simp [fits_leading_none]
    | some s =>
      rw [Option.toList_some, List.forall_mem_singleton, (htag s rfl).matchesAlone_iff]
  refine ⟨hkept, fun hsame => hkept.trans ?_⟩
  rw [List.forall_mem_append, List.forall_mem_append]
  refine and_congr_right fun _ => ⟨fun h s hs => h s (mem_kept_of_eq hsame hs), fun h s hs => ?_⟩
  exact h s (kept_subset hs)

/-- The same identifier twice, and an exclusion with blanks in it. -/
theorem compound_conjunction_card :
    let texts := [".card", "#main", ":not( [hidden] )", "#main", ".wide"]
    let e : Element := ⟨"div", [("id", "main"), ("class", "wide card")], "", none, false⟩
    (∀ s ∈ some "Div", NamesTag s) ∧ (∀ s ∈ texts, ∃ t, Simple s t) ∧
      (∀ s ∈ texts, ∀ s' ∈ texts, namesId s = true → namesId s' = true → s = s') ∧
      ∃ c, parse "Div.card#main:not( [hidden] )#main.wide" = .ok [.one c] ∧ c.fits e = true ∧
        ∀ s ∈ "Div" :: texts, MatchesAlone s e := by
  intro texts e
  have htag : ∀ s ∈ some "Div", NamesTag s := by
    rintro _ ⟨⟩
    exact .inr (by decide)
  have hhidden : parse " [hidden] " =
      .ok [.one (.tests none none [] [⟨"hidden", .present, "", false⟩] [])] := by
    with_unfolding_all rfl
  have hcard : IsName "card" := by decide
  have hmain : IsName "main" := by decide
  have hnot : IsName "not" := by decide
  have hwide : IsName "wide" := by decide
  have htexts : ∀ s ∈ texts, ∃ t, Simple s t := by
    simp only [texts, List.forall_mem_cons, List.not_mem_nil, false_imp_iff, implies_true, and_true]
    exact ⟨⟨_, .className hcard⟩, ⟨_, .id hmain⟩, ⟨_, .exclusion hnot (by decide) hhidden⟩,
      ⟨_, .id hmain⟩, ⟨_, .className hwide⟩⟩
  have hsame : ∀ s ∈ texts, ∀ s' ∈ texts, namesId s = true → namesId s' = true → s = s' := by
    decide
  obtain ⟨⟨c, hc, hfits⟩, -⟩ := compound_conjunction htag htexts (List.cons_ne_nil _ _)
  have hjoin : String.join ((some "Div").toList ++ texts) =
      "Div.card#main:not( [hidden] )#main.wide" := by
    decide
  have hread : parse "Div.card#main:not( [hidden] )#main.wide" =
      .ok [.one (.tests (some "div") (some "main") ["card", "wide"] []
        [.tests none none [] [⟨"hidden", .present, "", false⟩] []])] := by
    with_unfolding_all rfl
  rw [hjoin, hread] at hc
  obtain rfl := Complex.one.inj (List.singleton_inj.mp (Except.ok.inj hc))
  have hpassed : (Compound.tests (some "div") (some "main") ["card", "wide"] []
      [.tests none none [] [⟨"hidden", .present, "", false⟩] []]).fits e = true := by
    decide +kernel
  exact ⟨htag, htexts, hsame, _, hread, hpassed, ((hfits e).2 hsame).mp hpassed⟩

/-- Of two identifiers the first is not asked for. -/
theorem compound_forgets_id :
    let e : Element := ⟨"div", [("id", "b")], "", none, false⟩
    (∀ s ∈ ["#a", "#b"], ∃ t, Simple s t) ∧
      ∃ c, parse (String.join ["#a", "#b"]) = .ok [.one c] ∧ c.fits e = true ∧
        ¬ ∀ s ∈ ["#a", "#b"], MatchesAlone s e := by
  intro e
  have ha : IsName "a" := by decide
  have hb : IsName "b" := by decide
  have htexts : ∀ s ∈ ["#a", "#b"], ∃ t, Simple s t := by
    simp only [List.forall_mem_cons, List.not_mem_nil, false_imp_iff, implies_true, and_true]
    exact ⟨⟨_, .id ha⟩, ⟨_, .id hb⟩⟩
  have hboth : parse (String.join ["#a", "#b"]) = .ok [.one (.tests none (some "b") [] [] [])] := by
    with_unfolding_all rfl
  have hfirst : parse "#a" = .ok [.one (.tests none (some "a") [] [] [])] := by
    with_unfolding_all rfl
  refine ⟨htexts, _, hboth, by decide +kernel, fun h => ?_⟩
  have hfits := (matchesAlone_iff hfirst e).mp (h "#a" List.mem_cons_self)
  exact absurd hfits (by decide +kernel)

end Walkthrough.Selector
