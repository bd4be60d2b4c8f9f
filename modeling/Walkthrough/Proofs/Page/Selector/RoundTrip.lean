import Mathlib.Data.List.TakeDrop
import Mathlib.Data.List.TakeWhile
import Walkthrough.Proofs.Page.Selector.Printing
import Walkthrough.Proofs.Text.Blank

namespace Walkthrough.Selector

open Text

/-- What is not part of a name in front: no name goes on there. -/
def EndsName (cs : List Char) : Prop :=
  ∀ x ∈ cs.head?, isNameChar x = false

theorem endsName_cons {x : Char} (hx : isNameChar x = false) (cs : List Char) :
    EndsName (x :: cs) := by
  rintro _ ⟨⟩
  exact hx

theorem blanks_not_named : blankRanges.all (fun r =>
    (List.range' r.1 (r.2 + 1 - r.1)).all fun n => !isNameChar (Char.ofNat n)) = true := by
  decide +kernel

theorem not_blank_of_isNameChar {x : Char} (h : isNameChar x = true) : isBlank x = false := by
  by_contra hblank
  have hunnamed := of_isBlank (f := (!isNameChar ·)) blanks_not_named (Bool.not_eq_false _ ▸ hblank)
  simp [h] at hunnamed

theorem span_append {name : List Char} (hname : ∀ x ∈ name, isNameChar x = true)
    {rest : List Char} (hrest : EndsName rest) :
    (name ++ rest).span isNameChar = (name, rest) := by
  rw [List.span_eq_takeWhile_dropWhile, List.takeWhile_append_of_pos hname,
    List.dropWhile_append_of_pos hname]
  cases rest with
  | nil => simp
  | cons x rest => simp [hrest x rfl]

theorem readName_append {name : String} (h : IsName name) {rest : List Char}
    (hrest : EndsName rest) : readName (name.toList ++ rest) = .ok (name, rest) := by
  unfold readName
  rw [span_append h.2 hrest]
  cases hname : name.toList with
  | nil => exact absurd hname h.1
  | cons x cs =>
    dsimp only
    rw [← hname, String.ofList_toList]

theorem dropBlanks_name {name : String} (h : IsName name) (rest : List Char) :
    dropBlanks (name.toList ++ rest) = name.toList ++ rest := by
  refine dropBlanks_eq_self fun x hx => ?_
  rw [List.head?_append_of_ne_nil _ h.1] at hx
  exact not_blank_of_isNameChar (h.2 x (List.mem_of_mem_head? hx))

theorem readQuoted_cons {c : Char} (hc : c ≠ '\\') (quote : Char) (cs : List Char) :
    readQuoted quote (c :: cs) = if c == quote then .ok ("", cs) else
      (readQuoted quote cs).map fun (s, after) => (c.toString ++ s, after) := by
  rw [readQuoted]
  exact fun _ _ h => absurd h hc

theorem readQuoted_escaped (value rest : List Char) :
    readQuoted '"' (value.flatMap escapedChar ++ '"' :: rest) = .ok (String.ofList value, rest) := by
  induction value with
  | nil => rfl
  | cons c value ih =>
    have hcons : c.toString ++ String.ofList value = String.ofList (c :: value) := by
      rw [← String.toList_inj]
      simp
    rw [List.flatMap_cons, List.append_assoc, escapedChar]
    by_cases hc : c = '"' ∨ c = '\\'
    · rw [if_pos hc, List.cons_append, List.cons_append, List.nil_append, readQuoted, ih, ← hcons]
      rfl
    · obtain ⟨hquote, hslash⟩ := not_or.mp hc
      rw [if_neg hc, List.cons_append, List.nil_append, readQuoted_cons hslash,
        if_neg (by simpa using hquote), ih, ← hcons]
      rfl

theorem sign_append {op : Comparison} (h : op ≠ .present) (rest : List Char) :
    EndsName (op.sign ++ rest) ∧ dropBlanks (op.sign ++ rest) = op.sign ++ rest := by
  cases op with
  | present => exact absurd rfl h
  | equal | containing | word | starting | ending => exact ⟨endsName_cons (by decide) _, rfl⟩

theorem readComparison_sign {op : Comparison} (h : op ≠ .present) (rest : List Char) :
    readComparison (op.sign ++ rest) = .ok (op, rest) := by
  cases op with
  | present => exact absurd rfl h
  | equal | containing | word | starting | ending => rfl

theorem readCaseFlag_append (anyCase : Bool) (rest : List Char) :
    readCaseFlag (dropBlanks ((if anyCase then [' ', 'i'] else []) ++ ']' :: rest)) =
      (anyCase, ']' :: rest) := by
  cases anyCase <;> rfl

theorem readAttribute_append {t : AttributeTest} (h : t.WellFormed) (rest : List Char) :
    readAttribute (t.name.toList ++ (t.condition ++ ']' :: rest)) = .ok (t, rest) := by
  obtain ⟨name, op, value, anyCase⟩ := t
  obtain ⟨⟨hname, hlower⟩, hbare⟩ := h
  dsimp only at hname hlower hbare
  have hdrop (cs : List Char) : dropBlanks (name.toList ++ cs) = name.toList ++ cs :=
    dropBlanks_name hname cs
  by_cases hop : op = .present
  · obtain ⟨rfl, rfl⟩ := hbare hop
    subst hop
    have hends : EndsName (']' :: rest) := endsName_cons (by decide) _
    simp only [readAttribute, AttributeTest.condition, if_pos, List.nil_append]
    rw [hdrop, readName_append hname hends]
    simp only [bind, Except.bind]
    rw [hlower]
    rfl
  · have hcondition : AttributeTest.condition ⟨name, op, value, anyCase⟩ ++ ']' :: rest =
        op.sign ++ '"' :: (value.toList.flatMap escapedChar ++
          '"' :: ((if anyCase then [' ', 'i'] else []) ++ ']' :: rest)) := by
      simp [AttributeTest.condition, if_neg hop, quoted]
    have hvalue (cs : List Char) : readValue (dropBlanks ('"' :: cs)) = readQuoted '"' cs := rfl
    have hop' : (op == .present) = false := by simpa using hop
    obtain ⟨hends, hsign⟩ := sign_append hop ('"' :: (value.toList.flatMap escapedChar ++
      '"' :: ((if anyCase then [' ', 'i'] else []) ++ ']' :: rest)))
    rw [hcondition, readAttribute, hdrop, readName_append hname hends]
    simp only [bind, Except.bind]
    rw [hsign, readComparison_sign hop]
    dsimp only
    rw [hop', hvalue, readQuoted_escaped]
    dsimp only [Bool.false_eq_true, if_false]
    rw [readCaseFlag_append]
    simp [after, hlower]
    rfl

/-- What can stand behind a name in a selector, outside the brackets of an attribute. -/
def separators : List Char :=
  ['#', '.', '[', ':', ' ', ',', ')']

def Follows (cs : List Char) : Prop :=
  ∀ x ∈ cs.head?, x ∈ separators

theorem follows_cons {x : Char} (hx : x ∈ separators) (cs : List Char) : Follows (x :: cs) := by
  rintro _ ⟨⟩
  exact hx

theorem Follows.endsName {cs : List Char} (h : Follows cs) : EndsName cs := by
  have hnames : separators.all (!isNameChar ·) = true := by decide
  exact fun x hx => by simpa using List.all_eq_true.mp hnames x (h x hx)

/-- The reader of tests takes a text for what `add` adds to a compound, and goes on with the text that
follows. It has turns left for all the characters of that. -/
structure Takes (text : List Char) (add : Compound → Compound) : Prop where
  follows : ∀ {rest}, Follows rest → Follows (text ++ rest)
  reads : ∀ {rest}, Follows rest → ∀ c n, (text ++ rest).length < n →
    ∃ m, rest.length < m ∧ readTests n c (text ++ rest) = readTests m (add c) rest

namespace Takes

variable {u v : List Char} {f g : Compound → Compound}

theorem nil : Takes [] id :=
  ⟨fun h => h, fun _ _ n hn => ⟨n, hn, rfl⟩⟩

theorem append (hu : Takes u f) (hv : Takes v g) : Takes (u ++ v) (g ∘ f) := by
  constructor
  · intro rest hrest
    rw [List.append_assoc]
    exact hu.follows (hv.follows hrest)
  · intro rest hrest c n hn
    rw [List.append_assoc] at hn ⊢
    obtain ⟨m, hm, hfirst⟩ := hu.reads (hv.follows hrest) c n hn
    obtain ⟨k, hk, hsecond⟩ := hv.reads hrest (f c) m hm
    exact ⟨k, hk, hfirst.trans hsecond⟩

theorem flatMap {text : α → List Char} {add : Compound → α → Compound} {l : List α}
    (h : ∀ a ∈ l, Takes (text a) (add · a)) : Takes (l.flatMap text) (l.foldl add ·) := by
  induction l with
  | nil => exact nil
  | cons a l ih =>
    obtain ⟨ha, hl⟩ := List.forall_mem_cons.mp h
    exact ha.append (ih hl)

theorem of_turn {x : Char} (hx : x ∈ separators)
    (h : ∀ {rest}, Follows rest → ∀ c n, (x :: (u ++ rest)).length ≤ n →
      readTests (n + 1) c (x :: (u ++ rest)) = readTests n (f c) rest) : Takes (x :: u) f := by
  constructor
  · exact fun _ => follows_cons hx _
  · intro rest hrest c n hn
    obtain ⟨n, rfl⟩ := Nat.exists_eq_succ_of_ne_zero (Nat.ne_zero_of_lt hn)
    refine ⟨n, ?_, h hrest c n (Nat.le_of_lt_succ hn)⟩
    simp only [List.cons_append, List.length_cons, List.length_append] at hn
    omega

end Takes

theorem takes_class {name : String} (h : IsName name) :
    Takes (Compound.classChars name) (·.addClass name) := by
  refine .of_turn (by decide) fun hrest c n _ => ?_
  rw [readTests]
  simp only [bind, Except.bind, readName_append h hrest.endsName]

theorem takes_id {id : Option String} (h : ∀ i ∈ id, IsName i) :
    Takes (Compound.idChars id) fun c => id.elim c c.addId := by
  cases id with
  | none => exact .nil
  | some name =>
    refine .of_turn (by decide) fun hrest c n _ => ?_
    rw [readTests]
    simp only [bind, Except.bind, readName_append (h name rfl) hrest.endsName]
    rfl

theorem takes_attribute {t : AttributeTest} (h : t.WellFormed) : Takes t.chars (·.addAttribute t) := by
  refine .of_turn (by decide) fun {rest} _ c n _ => ?_
  have htext : t.name.toList ++ t.condition ++ [']'] ++ rest =
      t.name.toList ++ (t.condition ++ ']' :: rest) := by
    simp
  rw [htext, readTests]
  simp only [bind, Except.bind, readAttribute_append h]

def EndsCompound (cs : List Char) : Prop :=
  ∀ x ∈ cs.head?, x ∈ [' ', ',', ')']

theorem EndsCompound.follows {cs : List Char} (h : EndsCompound cs) : Follows cs := by
  have hsub : [' ', ',', ')'] ⊆ separators := by simp [separators]
  exact fun x hx => hsub (h x hx)

theorem readTests_stop {c : Compound} (hc : c.isEmpty = false) {rest : List Char}
    (hrest : ∀ x ∈ rest.head?, x ∉ ['#', '.', '[', ':']) (n : Nat) :
    readTests (n + 1) c rest = .ok (c, rest) := by
  unfold readTests
  split
  iterate 4 exact absurd (hrest _ rfl) (by decide)
  rw [hc]
  rfl

/-- A compound that is complete is given back where it ends. -/
theorem readTests_end {c : Compound} (hc : c.isEmpty = false) {rest : List Char}
    (hrest : EndsCompound rest) {n : Nat} (hn : rest.length < n) :
    readTests n c rest = .ok (c, rest) := by
  obtain ⟨n, rfl⟩ := Nat.exists_eq_succ_of_ne_zero (Nat.ne_zero_of_lt hn)
  have hends : [' ', ',', ')'].all (!List.contains ['#', '.', '[', ':'] ·) = true := by decide
  exact readTests_stop hc
    (fun x hx => by simpa using List.all_eq_true.mp hends x (hrest x hx)) n

/-- A compound is read back from its text with as many turns as there are characters. -/
def ReadsBack (c : Compound) : Prop :=
  ∀ {rest}, EndsCompound rest → ∀ n, (c.chars ++ rest).length < n →
    readTests n (readTag (c.chars ++ rest)).1 (readTag (c.chars ++ rest)).2 = .ok (c, rest)

theorem readTag_name {name : String} (h : IsName name) {rest : List Char} (hrest : EndsName rest) :
    readTag (name.toList ++ rest) = (.tests (some (lowercase name)) none [] [] [], rest) := by
  have hspan := span_append h.2 hrest
  obtain ⟨x, cs, hcs⟩ := List.exists_cons_of_ne_nil h.1
  rw [hcs] at hspan ⊢
  unfold readTag
  split
  · next heq =>
    have hnamed : isNameChar x = true := h.2 x (hcs ▸ List.mem_cons_self)
    rw [(List.cons.inj heq).1] at hnamed
    exact absurd hnamed (by decide)
  · rw [hspan]
    dsimp only
    rw [← hcs, String.ofList_toList]

theorem readTag_none {rest : List Char} (hrest : EndsName rest) (hstar : rest.head? ≠ some '*') :
    readTag rest = (.tests none none [] [] [], rest) := by
  have hspan := span_append (List.forall_mem_nil _) hrest
  unfold readTag
  split
  · exact absurd rfl hstar
  · rw [List.nil_append] at hspan
    rw [hspan]

theorem readTag_append {tag : Option String} (h : ∀ t ∈ tag, t = "*" ∨ IsLowerName t)
    {rest : List Char} (hrest : Follows rest) :
    readTag (Compound.tagChars tag ++ rest) = (.tests tag none [] [] [], rest) := by
  have hstar : '*' ∉ separators := by decide
  cases tag with
  | none => exact readTag_none hrest.endsName fun hhead => hstar (hrest _ hhead)
  | some name =>
    rcases h name rfl with rfl | ⟨hname, hlower⟩
    · rfl
    · have hread := readTag_name hname hrest.endsName
      rw [hlower] at hread
      exact hread

theorem foldl_concat (build : List α → Compound) (add : Compound → α → Compound)
    (h : ∀ l a, add (build l) a = build (l ++ [a])) (l : List α) :
    l.foldl add (build []) = build l := by
  induction l using List.reverseRecOn with
  | nil => rfl
  | append_singleton l a ih => rw [List.foldl_concat, ih, h]

theorem foldl_tests (tag id : Option String) (classes : List String)
    (attributes : List AttributeTest) (excluded : List Compound) :
    let c := Compound.tests tag none [] [] []
    excluded.foldl (·.addExcluded ·) (attributes.foldl (·.addAttribute ·)
      (classes.foldl (·.addClass ·) (id.elim c c.addId))) =
      .tests tag id classes attributes excluded := by
  intro c
  have hid : id.elim c c.addId = .tests tag id [] [] [] := by
    cases id <;> rfl
  have hclasses := foldl_concat (.tests tag id · [] []) (·.addClass ·) (fun _ _ => rfl) classes
  have hattributes := foldl_concat (.tests tag id classes · []) (·.addAttribute ·)
    (fun _ _ => rfl) attributes
  have hexcluded := foldl_concat (.tests tag id classes attributes ·) (·.addExcluded ·)
    (fun _ _ => rfl) excluded
  rw [hid, hclasses, hattributes, hexcluded]

def Opens (x : Char) : Prop :=
  isNameChar x = true ∨ x ∈ ['*', '#', '.', '[', ':']

theorem Opens.not_blank {x : Char} (h : Opens x) : isBlank x = false := by
  rcases h with h | h
  · exact not_blank_of_isNameChar h
  · have hsigns : ['*', '#', '.', '[', ':'].all (!isBlank ·) = true := by decide
    simpa using List.all_eq_true.mp hsigns x h

theorem Opens.not_end {x : Char} (h : Opens x) : x ∉ [',', ')', '>'] := by
  rcases h with h | h
  · have hends : [',', ')', '>'].all (!isNameChar ·) = true := by decide
    intro hx
    have hx' := List.all_eq_true.mp hends x hx
    rw [h] at hx'
    contradiction
  · have hsigns : ['*', '#', '.', '[', ':'].all (!List.contains [',', ')', '>'] ·) = true := by
      decide
    simpa using List.all_eq_true.mp hsigns x h

theorem Compound.WellFormed.opens {c : Compound} (h : c.WellFormed) :
    ∃ x cs, c.chars = x :: cs ∧ Opens x := by
  obtain ⟨htag, hid, hclasses, hattributes, -, hsome⟩ := h
  rename_i tag id classes attributes excluded
  rw [chars, exclusions_eq_flatMap]
  cases tag with
  | some name =>
    rcases htag name rfl with rfl | ⟨hname, -⟩
    · exact ⟨'*', _, rfl, .inr (by decide)⟩
    · obtain ⟨x, cs, hcs⟩ := List.exists_cons_of_ne_nil hname.1
      refine ⟨x, _, by rw [tagChars, Option.map_some, Option.getD_some, hcs]; rfl, .inl ?_⟩
      exact hname.2 x (hcs ▸ List.mem_cons_self)
  | none =>
    cases id with
    | some name => exact ⟨'#', _, rfl, .inr (by decide)⟩
    | none =>
      cases classes with
      | cons name classes => exact ⟨'.', _, rfl, .inr (by decide)⟩
      | nil =>
        cases attributes with
        | cons t attributes => exact ⟨'[', _, rfl, .inr (by decide)⟩
        | nil =>
          cases excluded with
          | cons c excluded => exact ⟨':', _, rfl, .inr (by decide)⟩
          | nil => exact absurd hsome (by decide)

theorem Compound.WellFormed.dropBlanks_chars {c : Compound} (h : c.WellFormed) (rest : List Char) :
    dropBlanks (c.chars ++ rest) = c.chars ++ rest := by
  obtain ⟨x, cs, hcs, hx⟩ := h.opens
  rw [hcs]
  refine dropBlanks_eq_self fun y hy => ?_
  obtain rfl := Option.some.inj hy
  exact hx.not_blank

theorem readTests_exclusion {cs r : List Char} {name : String} {n : Nat} {c inner : Compound}
    {afterName opened afterInner : List Char} (hname : readName cs = .ok (name, afterName))
    (hnot : lowercase name = "not") (hopen : after '(' afterName = .ok opened)
    (hinner : readTests n (readTag (dropBlanks opened)).1 (readTag (dropBlanks opened)).2 =
      .ok (inner, afterInner)) (hclose : after ')' (dropBlanks afterInner) = .ok r) :
    readTests (n + 1) c (':' :: cs) = readTests n (c.addExcluded inner) r := by
  have hsame : (lowercase name != "not") = false := by rw [hnot]; rfl
  rw [readTests]
  simp only [bind, Except.bind, hname, hsame, hopen, hinner, hclose]
  rfl

theorem takes_exclusion {c : Compound} (hc : c.WellFormed) (hread : ReadsBack c) :
    Takes (Compound.exclusion c.chars) (·.addExcluded c) := by
  refine .of_turn (by decide) fun {rest} _ d n hn => ?_
  have htext : ['n', 'o', 't', '('] ++ c.chars ++ [')'] ++ rest =
      "not".toList ++ '(' :: (c.chars ++ ')' :: rest) := by
    simp
  have hname : IsName "not" := by decide
  have hends : EndsName ('(' :: (c.chars ++ ')' :: rest)) := endsName_cons (by decide) _
  have hinner : EndsCompound (')' :: rest) := by
    rintro _ ⟨⟩
    decide
  change (':' :: (['n', 'o', 't', '('] ++ c.chars ++ [')'] ++ rest)).length ≤ n at hn
  change readTests (n + 1) d (':' :: (['n', 'o', 't', '('] ++ c.chars ++ [')'] ++ rest)) = _
  rw [htext] at hn ⊢
  have hturns : (c.chars ++ ')' :: rest).length < n := by
    simp only [List.length_cons, List.length_append] at hn ⊢
    omega
  have hback := hread hinner n hturns
  rw [← hc.dropBlanks_chars] at hback
  exact readTests_exclusion (readName_append hname hends) (by decide) rfl hback rfl

theorem readsBack {c : Compound} (h : c.WellFormed) : ReadsBack c := by
  induction h with
  | @tests tag id classes attributes excluded htag hid hclasses hattributes hexcluded hsome ih =>
    have htests := (takes_id hid).append
      ((Takes.flatMap fun c hc => takes_class (hclasses c hc)).append
        ((Takes.flatMap fun t ht => takes_attribute (hattributes t ht)).append
          (Takes.flatMap fun c hc => takes_exclusion (hexcluded c hc) (ih c hc))))
    intro rest hrest n hn
    rw [Compound.chars, Compound.exclusions_eq_flatMap, List.append_assoc] at hn ⊢
    rw [readTag_append htag (htests.follows hrest.follows)]
    have hturns := Nat.lt_of_le_of_lt (List.length_append ▸ Nat.le_add_left _ _) hn
    obtain ⟨m, hm, hread⟩ := htests.reads hrest.follows (.tests tag none [] [] []) n hturns
    rw [hread]
    simp only [Function.comp_apply]
    rw [foldl_tests]
    exact readTests_end hsome hrest hm

theorem readCompound_append {c : Compound} (h : c.WellFormed) {rest : List Char}
    (hrest : EndsCompound rest) : readCompound (c.chars ++ rest) = .ok (c, rest) :=
  readsBack h hrest _ (Nat.lt_succ_self _)

theorem endsCompound_link (link : Combinator) (rest : List Char) :
    EndsCompound (link.chars ++ rest) := by
  cases link <;> rintro _ ⟨⟩ <;> decide

def EndsComplex (cs : List Char) : Prop :=
  ∀ x ∈ cs.head?, x = ',' ∨ x = ')'

theorem readLinks_stop {cs : List Char} (h : EndsComplex (dropBlanks cs)) (n : Nat) (left : Complex) :
    readLinks (n + 1) left cs = .ok (left, dropBlanks cs) := by
  unfold readLinks
  dsimp only
  cases hdrop : dropBlanks cs with
  | nil => rfl
  | cons x more =>
    rw [hdrop] at h
    rcases h x rfl with rfl | rfl <;> rfl

theorem readLinks_child {cs inner : List Char} (h : dropBlanks cs = '>' :: inner) (n : Nat) (left : Complex) :
    readLinks (n + 1) left cs = readCompound (dropBlanks inner) >>= fun (c, inner) =>
      readLinks n (.within left .child c) inner := by
  rw [readLinks, h]
  rfl

theorem readLinks_descendant {x : Char} {cs more : List Char} (h : dropBlanks cs = x :: more)
    (hx : x ∉ [',', ')', '>']) (n : Nat) (left : Complex) :
    readLinks (n + 1) left cs =
      if (x :: more).length = cs.length then .error ⟨.character, (x :: more).length⟩
      else readCompound (x :: more) >>= fun (c, inner) =>
        readLinks n (.within left .descendant c) inner := by
  simp only [List.mem_cons, List.not_mem_nil, or_false, not_or] at hx
  rw [readLinks, h]
  dsimp only
  split
  · contradiction
  · next heq => exact absurd (List.cons.inj heq).1 hx.1
  · next heq => exact absurd (List.cons.inj heq).1 hx.2.1
  · next heq => exact absurd (List.cons.inj heq).1 hx.2.2
  · by_cases hlength : (x :: more).length = cs.length
    · rw [if_pos hlength, if_pos (beq_iff_eq.mpr hlength)]
      rfl
    · rw [if_neg hlength, if_neg (mt beq_iff_eq.mp hlength)]

theorem readLinks_link {left : Complex} (link : Combinator) {c : Compound} (hc : c.WellFormed)
    {rest : List Char} (hrest : EndsCompound rest) (n : Nat) :
    readLinks (n + 1) left (link.chars ++ (c.chars ++ rest)) =
      readLinks n (.within left link c) rest := by
  have hread := readCompound_append hc hrest
  have hblank : dropBlanks (' ' :: (c.chars ++ rest)) = c.chars ++ rest := hc.dropBlanks_chars rest
  cases link with
  | child =>
    have hsign : dropBlanks (Combinator.child.chars ++ (c.chars ++ rest)) =
        '>' :: ' ' :: (c.chars ++ rest) := rfl
    rw [readLinks_child hsign, hblank, hread]
    rfl
  | descendant =>
    obtain ⟨x, cs, hcs, hx⟩ := hc.opens
    rw [hcs, List.cons_append] at hblank hread ⊢
    have hshorter : ¬ (x :: (cs ++ rest)).length = (' ' :: x :: (cs ++ rest)).length := by simp
    change readLinks (n + 1) left (' ' :: x :: (cs ++ rest)) = _
    rw [readLinks_descendant hblank hx.not_end, if_neg hshorter, hread]
    rfl

/-- A complex selector is read up to where its last compound ends. -/
theorem readComplex_append {c : Complex} (h : c.WellFormed) {blanks : List Char}
    (hblanks : ∀ x ∈ blanks, isBlank x = true) {rest : List Char} (hrest : EndsCompound rest) :
    ∃ n, rest.length < n ∧ readComplex (blanks ++ (c.chars ++ rest)) = readLinks n c rest := by
  induction c generalizing rest with
  | one c =>
    refine ⟨(blanks ++ (c.chars ++ rest)).length + 1, by simp; omega, ?_⟩
    unfold readComplex
    rw [dropBlanks_append_of_blank hblanks]
    change (readCompound (dropBlanks (c.chars ++ rest)) >>= _) = _
    rw [h.dropBlanks_chars, readCompound_append h hrest]
    rfl
  | within outer link c ih =>
    obtain ⟨n, hn, hread⟩ := ih h.1 (endsCompound_link link (c.chars ++ rest))
    obtain ⟨n, rfl⟩ := Nat.exists_eq_succ_of_ne_zero (Nat.ne_zero_of_lt hn)
    refine ⟨n, ?_, ?_⟩
    · have hlink : 0 < link.chars.length := by cases link <;> decide
      simp only [List.length_append] at hn
      omega
    rw [Complex.chars, List.append_assoc, List.append_assoc, hread, readLinks_link link h.2 hrest]

theorem readLinks_end {c : Complex} {rest : List Char} (hrest : ∀ x ∈ rest.head?, x = ',')
    {n : Nat} (hn : rest.length < n) : readLinks n c rest = .ok (c, rest) := by
  obtain ⟨n, rfl⟩ := Nat.exists_eq_succ_of_ne_zero (Nat.ne_zero_of_lt hn)
  cases rest with
  | nil => rfl
  | cons x rest =>
    obtain rfl := hrest x rfl
    rfl

theorem readComplex_end {c : Complex} (h : c.WellFormed) {blanks : List Char}
    (hblanks : ∀ x ∈ blanks, isBlank x = true) {rest : List Char}
    (hrest : ∀ x ∈ rest.head?, x = ',') :
    readComplex (blanks ++ (c.chars ++ rest)) = .ok (c, rest) := by
  have hends : EndsCompound rest := fun x hx => by simp [hrest x hx]
  obtain ⟨n, hn, hread⟩ := readComplex_append h hblanks hends
  rw [hread, readLinks_end hrest hn]

theorem readAlternatives_print {s : Selector} (h : s.WellFormed) {blanks : List Char}
    (hblanks : ∀ x ∈ blanks, isBlank x = true) {n : Nat}
    (hn : (blanks ++ [',', ' '].intercalate (s.map Complex.chars)).length < n) :
    readAlternatives n (blanks ++ [',', ' '].intercalate (s.map Complex.chars)) = .ok (s, []) := by
  induction s generalizing blanks n with
  | nil => exact absurd rfl h.some
  | cons c rest ih =>
    obtain ⟨n, rfl⟩ := Nat.exists_eq_succ_of_ne_zero (Nat.ne_zero_of_lt hn)
    obtain ⟨hc, hrest⟩ := List.forall_mem_cons.mp h.alternatives
    cases rest with
    | nil =>
      have hend : ∀ x ∈ ([] : List Char).head?, x = ',' := nofun
      have hread : readComplex (blanks ++ c.chars) = .ok (c, []) := by
        simpa using readComplex_end hc hblanks hend
      rw [List.map_singleton, List.intercalate_singleton, readAlternatives, hread]
      rfl
    | cons d rest =>
      -- the comma ends this alternative, the blank behind it comes before the next one
      have htext : [',', ' '].intercalate ((c :: d :: rest).map Complex.chars) =
          c.chars ++ ',' :: ([' '] ++ [',', ' '].intercalate ((d :: rest).map Complex.chars)) := by
        rw [List.map_cons, List.map_cons, List.intercalate_cons_cons, List.append_assoc]
        rfl
      rw [htext] at hn ⊢
      have hturns : ([' '] ++ [',', ' '].intercalate ((d :: rest).map Complex.chars)).length < n := by
        simp only [List.length_append, List.length_cons] at hn ⊢
        omega
      have hblank : ∀ x ∈ [' '], isBlank x = true := List.forall_mem_singleton.mpr (by decide)
      have hlater := ih ⟨List.cons_ne_nil _ _, hrest⟩ hblank hturns
      rw [readAlternatives, readComplex_end hc hblanks (by simp)]
      simp only [bind, Except.bind, hlater]
      rfl

/-- Reading gives back every selector that a text can tell. -/
theorem parse_print {s : Selector} (h : s.WellFormed) : parse (print s) = .ok s := by
  have hread := readAlternatives_print h (List.forall_mem_nil _) (Nat.lt_succ_self _)
  unfold parse print
  rw [String.toList_ofList]
  dsimp only
  rw [List.nil_append] at hread
  rw [hread]
  rfl

/-- A value with quotes, brackets and a line end, an empty one, and an exclusion from an exclusion. -/
theorem parse_print_nested :
    let language : Compound := .tests none none [] [⟨"lang", .present, "", false⟩] []
    let link : Compound := .tests (some "*") (some "top") ["é-1"]
      [⟨"href", .ending, "a\"]\\\n", true⟩, ⟨"title", .equal, "", false⟩]
      [.tests none none [] [] [language]]
    let bold : Compound := .tests (some "b") none [] [] []
    let s : Selector := [.within (.within (.one link) .child bold) .descendant bold, .one language]
    s.WellFormed ∧
      print s =
        "*#top.é-1[href$=\"a\\\"]\\\\\n\" i][title=\"\"]:not(:not([lang])) > b b, [lang]" ∧
      parse (print s) = .ok s := by
  intro language link bold s
  have hlanguage : language.WellFormed :=
    .tests nofun nofun nofun (by decide) nofun rfl
  have hbold : bold.WellFormed := .tests (by decide) nofun nofun nofun nofun rfl
  have hlink : link.WellFormed := by
    refine .tests (by decide) (by decide) (by decide) (by decide) ?_ rfl
    refine List.forall_mem_singleton.mpr (.tests nofun nofun nofun nofun ?_ rfl)
    exact List.forall_mem_singleton.mpr hlanguage
  have hs : s.WellFormed := by
    refine ⟨List.cons_ne_nil _ _, ?_⟩
    simp only [s, List.forall_mem_cons, List.not_mem_nil, false_imp_iff, implies_true, and_true]
    exact ⟨⟨⟨hlink, hbold⟩, hbold⟩, hlanguage⟩
  exact ⟨hs, by decide +kernel, parse_print hs⟩

end Walkthrough.Selector
