import Walkthrough.Proofs.Page.Selector.Continuation

namespace Walkthrough.Selector

open Text

variable {cs r tail : List Char}

inductive ReadsLink (cs : List Char) : Combinator → Compound → List Char → Prop
  | child {inner r : List Char} {c : Compound} (hsign : dropBlanks cs = '>' :: inner)
      (hread : readCompound (dropBlanks inner) = .ok (c, r)) : ReadsLink cs .child c r
  | descendant {r : List Char} {c : Compound} (hsign : (dropBlanks cs).head? ≠ some '>')
      (hblank : (dropBlanks cs).length < cs.length)
      (hread : readCompound (dropBlanks cs) = .ok (c, r)) : ReadsLink cs .descendant c r

/-- The compounds to the right of `left`, with the combinators in front of them, up to where an
alternative ends. -/
inductive ReadsLinks : Complex → List Char → Complex → List Char → Prop
  | stop {left : Complex} {cs : List Char} (hends : EndsComplex (dropBlanks cs)) :
      ReadsLinks left cs left (dropBlanks cs)
  | turn {left c : Complex} {cs inner r : List Char} {link : Combinator} {d : Compound}
      (hlink : ReadsLink cs link d inner) (hlater : ReadsLinks (.within left link d) inner c r) :
      ReadsLinks left cs c r

section Links

variable {link : Combinator} {d : Compound} {left c e : Complex} {inner : List Char}

theorem readCompound_nothing (hname : EndsName cs)
    (hsigns : ∀ x ∈ cs.head?, x ∉ ['*', '#', '.', '[', ':']) :
    readCompound cs = .error ⟨.emptyCompound, cs.length⟩ := by
  unfold readCompound
  rw [readTag_none hname fun hstar => hsigns '*' hstar (by decide)]
  dsimp only
  unfold readTests
  split
  iterate 4 exact absurd (hsigns _ rfl) (by decide)
  rfl

/-- No compound starts with a sign that ends an alternative, or with the sign for a child. -/
theorem not_mem_of_readCompound (h : readCompound cs = .ok (d, r)) :
    ∀ x ∈ cs.head?, x ∉ [',', ')', '>'] := by
  intro x hx hmem
  have hsigns : [',', ')', '>'].all (fun x => !isNameChar x &&
      !List.contains ['*', '#', '.', '[', ':'] x) = true := by
    decide
  obtain ⟨hunnamed, hother⟩ := Bool.and_eq_true_iff.mp (List.all_eq_true.mp hsigns x hmem)
  have hnothing : readCompound cs = .error ⟨.emptyCompound, cs.length⟩ := by
    apply readCompound_nothing <;> intro y hy <;> obtain rfl := Option.some.inj (hx.symm.trans hy)
    · simpa using hunnamed
    · simpa using hother
  rw [hnothing] at h
  contradiction

theorem ReadsLink.length_lt (h : ReadsLink cs link d inner) : inner.length < cs.length := by
  have hdrop := length_dropBlanks_le cs
  cases h with
  | child hsign hread =>
    have hinner := steady_readCompound.dropBlanks.length_le hread
    rw [hsign, List.length_cons] at hdrop
    omega
  | descendant _ hblank hread => exact (steady_readCompound.length_le hread).trans_lt hblank

theorem ReadsLink.append (h : ReadsLink cs link d inner) (htail : inner = [] → EndsCompound tail) :
    ReadsLink (cs ++ tail) link d (inner ++ tail) := by
  have hmore (h : dropBlanks cs ≠ []) := dropBlanks_append_of_ne h tail
  cases h with
  | child hsign hread =>
    have hsign' := hmore (hsign ▸ List.cons_ne_nil _ _)
    rw [hsign] at hsign'
    exact .child hsign' (steady_readCompound.dropBlanks.append hread htail)
  | descendant hsign hblank hread =>
    have hne := steady_readCompound.ne_nil hread
    refine .descendant ?_ ?_ ?_
    · rwa [hmore hne, List.head?_append_of_ne_nil _ hne]
    · rw [hmore hne, List.length_append, List.length_append]
      omega
    · rw [hmore hne]
      exact steady_readCompound.append hread htail

theorem ReadsLinks.length_le (h : ReadsLinks left cs c r) : r.length ≤ cs.length := by
  induction h with
  | stop _ => exact length_dropBlanks_le _
  | turn hlink _ ih => exact ih.trans hlink.length_lt.le

theorem readLinks_succ_eq_ok_iff {n : Nat} : readLinks (n + 1) left cs = .ok (c, r) ↔
    (EndsComplex (dropBlanks cs) ∧ c = left ∧ r = dropBlanks cs) ∨
      ∃ link d inner, ReadsLink cs link d inner ∧
        readLinks n (.within left link d) inner = .ok (c, r) := by
  constructor
  · intro h
    by_cases hends : EndsComplex (dropBlanks cs)
    · rw [readLinks_stop hends] at h
      obtain ⟨rfl, rfl⟩ := Prod.mk.inj (Except.ok.inj h)
      exact .inl ⟨hends, rfl, rfl⟩
    · right
      obtain ⟨x, hx, hends⟩ : ∃ x ∈ (dropBlanks cs).head?, ¬ (x = ',' ∨ x = ')') := by
        simpa [EndsComplex] using hends
      obtain ⟨more, hdrop⟩ := List.head?_eq_some_iff.mp hx
      by_cases hchild : x = '>'
      · subst hchild
        rw [readLinks_child hdrop] at h
        obtain ⟨⟨d, inner⟩, hread, hlater⟩ := bind_eq_ok.mp h
        exact ⟨.child, d, inner, .child hdrop hread, hlater⟩
      · rw [readLinks_descendant hdrop (by simpa [hchild] using hends)] at h
        split_ifs at h with hblank
        obtain ⟨⟨d, inner⟩, hread, hlater⟩ := bind_eq_ok.mp h
        rw [← hdrop] at hread hblank
        refine ⟨.descendant, d, inner, .descendant ?_ ?_ hread, hlater⟩
        · rw [hdrop]
          exact fun hhead => hchild (Option.some.inj hhead)
        · exact Nat.lt_of_le_of_ne (length_dropBlanks_le cs) hblank
  · rintro (⟨hends, rfl, rfl⟩ | ⟨link, d, inner, hlink, hlater⟩)
    · exact readLinks_stop hends n c
    · cases hlink with
      | child hsign hread =>
        rw [readLinks_child hsign, hread]
        exact hlater
      | descendant hsign hblank hread =>
        obtain ⟨x, more, hdrop⟩ := List.exists_cons_of_ne_nil (steady_readCompound.ne_nil hread)
        rw [hdrop] at hread hblank
        rw [readLinks_descendant hdrop (not_mem_of_readCompound hread x rfl),
          if_neg (Nat.ne_of_lt hblank), hread]
        exact hlater

/-- With a turn for every character left, how many there are makes no difference. -/
theorem readLinks_eq_ok_iff {n : Nat} (hn : cs.length < n) :
    readLinks n left cs = .ok (c, r) ↔ ReadsLinks left cs c r := by
  induction n generalizing left cs with
  | zero => exact absurd hn (Nat.not_lt_zero _)
  | succ n ih =>
    rw [readLinks_succ_eq_ok_iff]
    constructor
    · rintro (⟨hends, rfl, rfl⟩ | ⟨link, d, inner, hlink, hlater⟩)
      · exact .stop hends
      · have hlt := hlink.length_lt
        exact .turn hlink ((ih (by omega)).mp hlater)
    · rintro (hends | ⟨hlink, hlater⟩)
      · exact .inl ⟨hends, rfl, rfl⟩
      · have hlt := hlink.length_lt
        exact .inr ⟨_, _, _, hlink, (ih (by omega)).mpr hlater⟩

theorem ReadsLink.append_left (h : ReadsLink cs link d inner) {blanks : List Char}
    (hblanks : ∀ x ∈ blanks, isBlank x = true) : ReadsLink (blanks ++ cs) link d inner := by
  have hdrop := dropBlanks_append_of_blank hblanks cs
  cases h with
  | child hsign hread => exact .child (hdrop.trans hsign) hread
  | descendant hsign hblank hread =>
    refine .descendant (hdrop ▸ hsign) ?_ (hdrop ▸ hread)
    rw [hdrop, List.length_append]
    omega

theorem ReadsLinks.append_left (h : ReadsLinks left cs c r) {blanks : List Char}
    (hblanks : ∀ x ∈ blanks, isBlank x = true) : ReadsLinks left (blanks ++ cs) c r := by
  cases h with
  | stop hends =>
    have hdrop := dropBlanks_append_of_blank hblanks cs
    rw [← hdrop] at hends ⊢
    exact .stop hends
  | turn hlink hlater => exact .turn (hlink.append_left hblanks) hlater

theorem ReadsLinks.append (h : ReadsLinks left cs c r) (hr : r ≠ []) (tail : List Char) :
    ReadsLinks left (cs ++ tail) c (r ++ tail) := by
  induction h with
  | @stop left cs hends =>
    rw [← dropBlanks_append_of_ne hr]
    refine .stop ?_
    rw [dropBlanks_append_of_ne hr]
    unfold EndsComplex
    rwa [List.head?_append_of_ne_nil _ hr]
  | turn hlink hlater ih =>
    refine .turn (hlink.append fun hinner => ?_) (ih hr)
    subst hinner
    exact absurd (List.length_eq_zero_iff.mp (Nat.le_zero.mp hlater.length_le)) hr

/-- Links that have come to the end of the text go on with what stands behind it. -/
theorem ReadsLinks.trans (h : ReadsLinks left cs c []) (htail : EndsCompound tail)
    (hlater : ReadsLinks c tail e r) : ReadsLinks left (cs ++ tail) e r := by
  generalize hnil : [] = left' at h
  induction h with
  | @stop left cs hends =>
    have hblanks : ∀ x ∈ cs, isBlank x = true := List.dropWhile_eq_nil_iff.mp hnil.symm
    exact hlater.append_left hblanks
  | turn hlink _ ih => exact .turn (hlink.append fun _ => htail) (ih hlater hnil)

end Links

section Alternatives

variable {c e : Complex}

theorem readComplex_eq_ok_iff : readComplex cs = .ok (c, r) ↔
    ∃ d rest, readCompound (dropBlanks cs) = .ok (d, rest) ∧ ReadsLinks (.one d) rest c r := by
  unfold readComplex
  simp only [bind_eq_ok, Prod.exists]
  refine exists_congr fun d => exists_congr fun rest => and_congr_right fun hread => ?_
  have hle := steady_readCompound.dropBlanks.length_le hread
  exact readLinks_eq_ok_iff (Nat.lt_succ_of_le hle)

theorem readComplex_append_left (h : readComplex cs = .ok (c, r)) {blanks : List Char}
    (hblanks : ∀ x ∈ blanks, isBlank x = true) : readComplex (blanks ++ cs) = .ok (c, r) := by
  rw [readComplex_eq_ok_iff, dropBlanks_append_of_blank hblanks]
  exact readComplex_eq_ok_iff.mp h

theorem readComplex_append_tail (h : readComplex cs = .ok (c, r)) (hr : r ≠ []) (tail : List Char) :
    readComplex (cs ++ tail) = .ok (c, r ++ tail) := by
  obtain ⟨d, rest, hread, hlinks⟩ := readComplex_eq_ok_iff.mp h
  refine readComplex_eq_ok_iff.mpr ⟨d, rest ++ tail, ?_, hlinks.append hr tail⟩
  refine steady_readCompound.dropBlanks.append hread fun hrest => ?_
  subst hrest
  exact absurd (List.length_eq_zero_iff.mp (Nat.le_zero.mp hlinks.length_le)) hr

/-- An alternative that ends with the text goes on with what stands behind it. -/
theorem readComplex_trans (h : readComplex cs = .ok (c, [])) (htail : EndsCompound tail)
    (hlater : ReadsLinks c tail e r) : readComplex (cs ++ tail) = .ok (e, r) := by
  obtain ⟨d, rest, hread, hlinks⟩ := readComplex_eq_ok_iff.mp h
  have hread' := steady_readCompound.dropBlanks.append hread fun _ => htail
  exact readComplex_eq_ok_iff.mpr ⟨d, rest ++ tail, hread', hlinks.trans htail hlater⟩

theorem length_le_of_readComplex (h : readComplex cs = .ok (c, r)) : r.length ≤ cs.length := by
  obtain ⟨d, rest, hread, hlinks⟩ := readComplex_eq_ok_iff.mp h
  exact hlinks.length_le.trans (steady_readCompound.dropBlanks.length_le hread)

inductive Spells : List Char → Selector → Prop
  | one {cs : List Char} {c : Complex} (hread : readComplex cs = .ok (c, [])) : Spells cs [c]
  | cons {cs rest : List Char} {c : Complex} {s : Selector}
      (hread : readComplex cs = .ok (c, ',' :: rest)) (hrest : Spells rest s) : Spells cs (c :: s)

theorem spells_singleton_iff : Spells cs [c] ↔ readComplex cs = .ok (c, []) := by
  constructor
  · rintro (hread | ⟨_, hrest⟩)
    · exact hread
    · contradiction
  · exact .one

theorem readAlternatives_eq_ok_iff {s : Selector} {n : Nat} (hn : cs.length < n) :
    readAlternatives n cs = .ok (s, []) ↔ Spells cs s := by
  induction n generalizing cs s with
  | zero => exact absurd hn (Nat.not_lt_zero _)
  | succ n ih =>
    constructor
    · intro h
      obtain ⟨⟨c, rest⟩, hread, h⟩ := bind_eq_ok.mp h
      have hle := length_le_of_readComplex hread
      dsimp only at h
      split at h
      · next rest =>
        obtain ⟨⟨later, left⟩, hlater, heq⟩ := map_eq_ok.mp h
        obtain ⟨rfl, rfl⟩ := Prod.mk.inj heq
        rw [List.length_cons] at hle
        exact .cons hread ((ih (by omega)).mp hlater)
      · obtain ⟨rfl, rfl⟩ := Prod.mk.inj (Except.ok.inj h)
        exact .one hread
    · rintro (hread | ⟨hread, hrest⟩)
      · rw [readAlternatives, hread]
        rfl
      · have hle := length_le_of_readComplex hread
        rw [List.length_cons] at hle
        rw [readAlternatives, hread]
        change (readAlternatives n _).map _ = _
        rw [(ih (by omega)).mpr hrest]
        rfl

theorem parse_eq_ok_iff {source : String} {s : Selector} :
    parse source = .ok s ↔ Spells source.toList s := by
  rw [← readAlternatives_eq_ok_iff (Nat.lt_succ_self _)]
  unfold parse
  dsimp only
  rw [bind_eq_ok]
  constructor
  · rintro ⟨⟨read, rest⟩, hread, h⟩
    dsimp only at h
    split_ifs at h with hrest
    obtain rfl := Except.ok.inj h
    rw [hread, List.isEmpty_iff.mp hrest]
  · exact fun h => ⟨_, h, rfl⟩

end Alternatives

end Walkthrough.Selector
