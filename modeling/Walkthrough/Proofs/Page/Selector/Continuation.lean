import Walkthrough.Proofs.Page.Selector.RoundTrip

namespace Walkthrough.Selector

open Text

variable {α β ε : Type} {cs r tail : List Char} {stops : List Char → Prop}

theorem bind_eq_ok {x : Except ε α} {f : α → Except ε β} {b : β} :
    x >>= f = .ok b ↔ ∃ a, x = .ok a ∧ f a = .ok b := by
  cases x <;> simp [bind, Except.bind]

theorem map_eq_ok {x : Except ε α} {f : α → β} {b : β} :
    x.map f = .ok b ↔ ∃ a, x = .ok a ∧ f a = b := by
  cases x <;> simp [Except.map]

theorem dropBlanks_append_of_ne (h : dropBlanks cs ≠ []) (tail : List Char) :
    dropBlanks (cs ++ tail) = dropBlanks cs ++ tail := by
  unfold dropBlanks at h ⊢
  rw [List.dropWhile_append, if_neg (by simpa using h)]

theorem length_dropBlanks_le (cs : List Char) : (dropBlanks cs).length ≤ cs.length :=
  (List.dropWhile_suffix isBlank).length_le

/-- A reader needs something to read, and where a text goes on behind what it has read, it reads the
same and leaves what goes on; where it had come to the end, only if what goes on stops it. -/
structure Steady (stops : List Char → Prop) (read : Reader α) : Prop where
  ne_nil : ∀ {cs a r}, read cs = .ok (a, r) → cs ≠ []
  length_le : ∀ {cs a r}, read cs = .ok (a, r) → r.length ≤ cs.length
  append : ∀ {cs a r tail}, read cs = .ok (a, r) → (r = [] → stops tail) →
    read (cs ++ tail) = .ok (a, r ++ tail)

theorem Steady.of_shorter {read : Reader α}
    (h : ∀ {cs a r}, read cs = .ok (a, r) → r.length < cs.length ∧
      ∀ tail, (r = [] → stops tail) → read (cs ++ tail) = .ok (a, r ++ tail)) :
    Steady stops read := by
  refine ⟨?_, fun hread => (h hread).1.le, fun hread hstops => (h hread).2 _ hstops⟩
  rintro cs a r hread rfl
  exact absurd (h hread).1 (Nat.not_lt_zero _)

theorem Steady.dropBlanks {read : Reader α} (h : Steady stops read) :
    Steady stops (read ∘ dropBlanks) := by
  refine ⟨?_, fun hread => (h.length_le hread).trans (length_dropBlanks_le _), ?_⟩
  · rintro cs a r hread rfl
    exact h.ne_nil hread rfl
  · intro cs a r tail hread hstops
    rw [Function.comp_apply, dropBlanks_append_of_ne (h.ne_nil hread)]
    exact h.append hread hstops

theorem readName_eq_ok_iff {name : String} :
    readName cs = .ok (name, r) ↔ cs = name.toList ++ r ∧ IsName name ∧ EndsName r := by
  constructor
  · intro h
    unfold readName at h
    rw [List.span_eq_takeWhile_dropWhile] at h
    have hcs : cs = cs.takeWhile isNameChar ++ cs.dropWhile isNameChar :=
      List.takeWhile_append_dropWhile.symm
    have hnamed : ∀ x ∈ cs.takeWhile isNameChar, isNameChar x = true :=
      fun x hx => List.mem_takeWhile_imp hx
    have hends : EndsName (cs.dropWhile isNameChar) := by
      intro x hx
      have hhead := List.head?_dropWhile_not isNameChar cs
      rw [Option.mem_def.mp hx] at hhead
      simpa using hhead
    cases htake : cs.takeWhile isNameChar with
    | nil =>
      rw [htake] at h
      contradiction
    | cons x more =>
      rw [htake] at h hcs hnamed
      obtain ⟨rfl, rfl⟩ := Prod.mk.inj (Except.ok.inj h)
      refine ⟨by rwa [String.toList_ofList], ⟨?_, ?_⟩, hends⟩
      · rw [String.toList_ofList]
        exact List.cons_ne_nil _ _
      · rwa [String.toList_ofList]
  · rintro ⟨rfl, hname, hends⟩
    exact readName_append hname hends

theorem EndsName.append (h : EndsName r) (htail : r = [] → EndsName tail) :
    EndsName (r ++ tail) := by
  cases r with
  | nil => exact htail rfl
  | cons x r => exact endsName_cons (h x rfl) _

theorem steady_readName : Steady EndsName readName := by
  refine .of_shorter fun {cs name r} hread => ?_
  obtain ⟨rfl, hname, hends⟩ := readName_eq_ok_iff.mp hread
  have hpos := List.length_pos_of_ne_nil hname.1
  refine ⟨by rw [List.length_append]; omega, fun tail hstops => ?_⟩
  exact readName_eq_ok_iff.mpr ⟨List.append_assoc _ _ _, hname, hends.append hstops⟩

/-- A quote that stands for itself closes the text, whatever follows it. -/
theorem steady_readQuoted {quote : Char} (hquote : quote ≠ '\\') :
    Steady (fun _ => True) (readQuoted quote) := by
  refine .of_shorter fun {cs} => ?_
  fun_induction readQuoted quote cs with
  | case1 => nofun
  | case2 c rest ih =>
    intro a r h
    obtain ⟨⟨value, left⟩, hread, heq⟩ := map_eq_ok.mp h
    obtain ⟨rfl, rfl⟩ := Prod.mk.inj heq
    obtain ⟨hlt, hmore⟩ := ih hread
    refine ⟨by simp only [List.length_cons]; omega, fun tail hstops => ?_⟩
    rw [List.cons_append, List.cons_append, readQuoted, hmore tail hstops]
    rfl
  | case3 c rest hescape hc =>
    rintro a r ⟨⟩
    obtain rfl := eq_of_beq hc
    refine ⟨Nat.lt_succ_self _, fun tail _ => ?_⟩
    rw [List.cons_append, readQuoted_cons hquote, if_pos hc]
  | case4 c rest hescape hc ih =>
    intro a r h
    obtain ⟨⟨value, left⟩, hread, heq⟩ := map_eq_ok.mp h
    obtain ⟨rfl, rfl⟩ := Prod.mk.inj heq
    obtain ⟨hlt, hmore⟩ := ih hread
    -- a backslash is followed by the character it stands for, or the quote is missing
    have hplain : c ≠ '\\' := by
      rintro rfl
      cases rest with
      | nil => contradiction
      | cons d rest => exact hescape d rest rfl rfl
    refine ⟨by simp only [List.length_cons]; omega, fun tail hstops => ?_⟩
    rw [List.cons_append, readQuoted_cons hplain, if_neg hc, hmore tail hstops]
    rfl

theorem steady_readValue : Steady EndsName readValue := by
  have hquoted : ∀ quote ∈ ['"', '\''], Steady (fun _ => True) (readQuoted quote) := by
    intro quote hmem
    refine steady_readQuoted ?_
    rintro rfl
    exact absurd hmem (by decide)
  constructor
  · rintro cs a r h rfl
    change readName [] = .ok (a, r) at h
    exact steady_readName.ne_nil h rfl
  · intro cs a r h
    unfold readValue at h
    split at h
    · exact Nat.le_succ_of_le ((hquoted _ (by decide)).length_le h)
    · exact Nat.le_succ_of_le ((hquoted _ (by decide)).length_le h)
    · exact steady_readName.length_le h
  · intro cs a r tail h hstops
    unfold readValue at h
    split at h
    · exact (hquoted _ (by decide)).append h fun _ => trivial
    · exact (hquoted _ (by decide)).append h fun _ => trivial
    · next hdouble hsingle =>
      obtain ⟨x, more, rfl⟩ := List.exists_cons_of_ne_nil (steady_readName.ne_nil h)
      rw [List.cons_append, readValue]
      · exact steady_readName.append h hstops
      · exact fun rest heq => hdouble more (congrArg (· :: more) (List.cons.inj heq).1)
      · exact fun rest heq => hsingle more (congrArg (· :: more) (List.cons.inj heq).1)

theorem after_eq_ok_iff {c : Char} : after c cs = .ok r ↔ cs = c :: r := by
  cases cs with
  | nil => simp [after]
  | cons d rest =>
    by_cases hd : d = c <;> simp [after, hd]

theorem steady_readComparison : Steady (fun _ => True) readComparison := by
  refine .of_shorter fun {cs a r} h => ?_
  unfold readComparison at h
  split at h
  · obtain ⟨rfl, rfl⟩ := Prod.mk.inj (Except.ok.inj h)
    exact ⟨Nat.lt_succ_self _, fun _ _ => rfl⟩
  · obtain ⟨rfl, rfl⟩ := Prod.mk.inj (Except.ok.inj h)
    exact ⟨Nat.lt_succ_self _, fun _ _ => rfl⟩
  iterate 4
    · obtain ⟨left, hafter, heq⟩ := map_eq_ok.mp h
      obtain ⟨rfl, rfl⟩ := Prod.mk.inj heq
      obtain rfl := after_eq_ok_iff.mp hafter
      exact ⟨by simp only [List.length_cons]; omega, fun _ _ => rfl⟩
  · contradiction

theorem readCaseFlag_cons (x : Char) (rest : List Char) :
    readCaseFlag (x :: rest) =
      if x = 'i' ∨ x = 'I' then (true, dropBlanks rest) else (false, x :: rest) := by
  split_ifs with h
  · rcases h with rfl | rfl <;> rfl
  · rw [readCaseFlag]
    · exact fun _ heq => h (.inl (List.cons.inj heq).1)
    · exact fun _ heq => h (.inr (List.cons.inj heq).1)

theorem readCaseFlag_append_tail (h : after ']' (readCaseFlag (dropBlanks cs)).2 = .ok r) :
    r.length < cs.length ∧ ∀ tail, readCaseFlag (dropBlanks (cs ++ tail)) =
      ((readCaseFlag (dropBlanks cs)).1, ']' :: (r ++ tail)) := by
  have hbracket := after_eq_ok_iff.mp h
  have hlength := length_dropBlanks_le cs
  have hmore (tail : List Char) (h : dropBlanks cs ≠ []) := dropBlanks_append_of_ne h tail
  cases hdrop : dropBlanks cs with
  | nil =>
    rw [hdrop] at hbracket
    contradiction
  | cons x rest =>
    rw [hdrop] at hbracket hlength hmore
    rw [readCaseFlag_cons] at hbracket ⊢
    rw [List.length_cons] at hlength
    split_ifs at hbracket ⊢ with hflag
    · replace hbracket : dropBlanks rest = ']' :: r := hbracket
      have hrest := length_dropBlanks_le rest
      have hne : dropBlanks rest ≠ [] := hbracket ▸ List.cons_ne_nil _ _
      rw [hbracket, List.length_cons] at hrest
      refine ⟨by omega, fun tail => ?_⟩
      rw [hmore tail (List.cons_ne_nil _ _), List.cons_append, readCaseFlag_cons, if_pos hflag,
        dropBlanks_append_of_ne hne, hbracket]
      rfl
    · obtain ⟨rfl, rfl⟩ := List.cons.inj hbracket
      refine ⟨hlength, fun tail => ?_⟩
      rw [hmore tail (List.cons_ne_nil _ _)]
      rfl

theorem readAttribute_eq_ok_iff {t : AttributeTest} : readAttribute cs = .ok (t, r) ↔
    ∃ name n, readName (dropBlanks cs) = .ok (name, n) ∧
      ∃ op o, readComparison (dropBlanks n) = .ok (op, o) ∧
        if op == .present then t = ⟨lowercase name, .present, "", false⟩ ∧ r = o
        else ∃ value v, readValue (dropBlanks o) = .ok (value, v) ∧
          after ']' (readCaseFlag (dropBlanks v)).2 = .ok r ∧
          t = ⟨lowercase name, op, value, (readCaseFlag (dropBlanks v)).1⟩ := by
  simp only [readAttribute, bind_eq_ok, Prod.exists]
  refine exists_congr fun name => exists_congr fun n => and_congr_right fun _ =>
    exists_congr fun op => exists_congr fun o => and_congr_right fun _ => ?_
  split_ifs
  · simp only [pure, Except.pure, Except.ok.injEq, Prod.mk.injEq]
    exact and_congr eq_comm eq_comm
  · simp only [bind_eq_ok, Prod.exists, pure, Except.pure, Except.ok.injEq, Prod.mk.injEq]
    refine exists_congr fun value => exists_congr fun v => and_congr_right fun _ => ?_
    constructor
    · rintro ⟨left, hafter, rfl, rfl⟩
      exact ⟨hafter, rfl⟩
    · rintro ⟨hafter, rfl⟩
      exact ⟨r, hafter, rfl, rfl⟩

theorem steady_readAttribute : Steady (fun _ => True) readAttribute := by
  have hname := steady_readName.dropBlanks
  have hop := steady_readComparison.dropBlanks
  have hvalue := steady_readValue.dropBlanks
  constructor
  · rintro cs t r h rfl
    obtain ⟨name, n, hread, -⟩ := readAttribute_eq_ok_iff.mp h
    exact hname.ne_nil hread rfl
  · intro cs t r h
    obtain ⟨name, n, hreadName, op, o, hreadOp, hrest⟩ := readAttribute_eq_ok_iff.mp h
    have hn := hname.length_le hreadName
    have ho := hop.length_le hreadOp
    split_ifs at hrest with hpresent
    · obtain ⟨-, rfl⟩ := hrest
      exact ho.trans hn
    · obtain ⟨value, v, hreadValue, hafter, -⟩ := hrest
      have hv := hvalue.length_le hreadValue
      exact (readCaseFlag_append_tail hafter).1.le.trans (hv.trans (ho.trans hn))
  · intro cs t r tail h _
    obtain ⟨name, n, hreadName, op, o, hreadOp, hrest⟩ := readAttribute_eq_ok_iff.mp h
    have hn : n = [] → EndsName tail := fun hnil => absurd hnil (hop.ne_nil hreadOp)
    refine readAttribute_eq_ok_iff.mpr ⟨name, n ++ tail, hname.append hreadName hn, op, o ++ tail,
      hop.append hreadOp fun _ => trivial, ?_⟩
    split_ifs at hrest ⊢ with hpresent
    · obtain ⟨rfl, rfl⟩ := hrest
      exact ⟨rfl, rfl⟩
    · obtain ⟨value, v, hreadValue, hafter, rfl⟩ := hrest
      obtain ⟨hlt, hflag⟩ := readCaseFlag_append_tail hafter
      have hv : v = [] → EndsName tail := by
        rintro rfl
        exact absurd hlt (Nat.not_lt_zero _)
      refine ⟨value, v ++ tail, hvalue.append hreadValue hv, ?_, ?_⟩ <;> rw [hflag]
      rfl

theorem readTag_append_tail (hne : cs ≠ []) (htail : (readTag cs).2 = [] → EndsName tail) :
    readTag (cs ++ tail) = ((readTag cs).1, (readTag cs).2 ++ tail) := by
  obtain ⟨x, more, rfl⟩ := List.exists_cons_of_ne_nil hne
  by_cases hstar : x = '*'
  · subst hstar
    rfl
  by_cases hx : isNameChar x = true
  · obtain ⟨name, rest, hread⟩ : ∃ name rest, readName (x :: more) = .ok (name, rest) := by
      unfold readName
      rw [List.span_eq_takeWhile_dropWhile, List.takeWhile_cons_of_pos hx]
      exact ⟨_, _, rfl⟩
    obtain ⟨hcs, hname, hends⟩ := readName_eq_ok_iff.mp hread
    rw [hcs, readTag_name hname hends] at htail ⊢
    rw [List.append_assoc, readTag_name hname (hends.append htail)]
  · have hends (cs : List Char) : EndsName (x :: cs) := endsName_cons (by simpa using hx) cs
    have hhead (cs : List Char) : (x :: cs).head? ≠ some '*' := fun h => hstar (Option.some.inj h)
    rw [readTag_none (hends more) (hhead more)]
    exact readTag_none (hends _) (hhead _)

theorem length_readTag_le (cs : List Char) : (readTag cs).2.length ≤ cs.length := by
  unfold readTag
  split
  · exact Nat.le_succ _
  · rw [List.span_eq_takeWhile_dropWhile]
    split
    · exact Nat.le_refl _
    · next heq =>
      obtain ⟨-, rfl⟩ := Prod.mk.inj heq
      exact (List.dropWhile_suffix _).length_le

theorem exists_of_readTests_exclusion {n : Nat} {c d : Compound}
    (h : readTests (n + 1) c (':' :: cs) = .ok (d, r)) :
    ∃ name afterName opened inner afterInner rest, readName cs = .ok (name, afterName) ∧
      lowercase name = "not" ∧ after '(' afterName = .ok opened ∧
      readTests n (readTag (dropBlanks opened)).1 (readTag (dropBlanks opened)).2 =
        .ok (inner, afterInner) ∧
      after ')' (dropBlanks afterInner) = .ok rest ∧
      readTests n (c.addExcluded inner) rest = .ok (d, r) := by
  rw [readTests] at h
  obtain ⟨⟨name, afterName⟩, hname, h⟩ := bind_eq_ok.mp h
  dsimp only at h
  split_ifs at h with hnot
  · contradiction
  obtain ⟨opened, hopen, h⟩ := bind_eq_ok.mp h
  obtain ⟨⟨inner, afterInner⟩, hinner, h⟩ := bind_eq_ok.mp h
  obtain ⟨rest, hclose, h⟩ := bind_eq_ok.mp h
  exact ⟨name, afterName, opened, inner, afterInner, rest, hname, by simpa using hnot, hopen, hinner,
    hclose, h⟩

/-- What reading tests comes to, whatever number of turns is left and however the text goes on. -/
def ReadsTests (c : Compound) (cs : List Char) (d : Compound) (r : List Char) : Prop :=
  r.length ≤ cs.length ∧ ∀ tail, (r = [] → EndsCompound tail) → ∀ n, (cs ++ tail).length < n →
    readTests n c (cs ++ tail) = .ok (d, r ++ tail)

theorem ReadsTests.turn {x : Char} {c added d : Compound} {left : List Char}
    (hle : left.length ≤ cs.length)
    (hturn : ∀ tail, (left = [] → EndsCompound tail) → ∀ n, (cs ++ tail).length < n →
      readTests (n + 1) c (x :: (cs ++ tail)) = readTests n added (left ++ tail))
    (hlater : ReadsTests added left d r) : ReadsTests c (x :: cs) d r := by
  obtain ⟨hlength, hreads⟩ := hlater
  refine ⟨by rw [List.length_cons]; omega, fun tail htail n hn => ?_⟩
  obtain ⟨n, rfl⟩ := Nat.exists_eq_succ_of_ne_zero (Nat.ne_zero_of_lt hn)
  rw [List.cons_append, List.length_cons, List.length_append] at hn
  have hleft : left = [] → EndsCompound tail := by
    rintro rfl
    exact htail (List.length_eq_zero_iff.mp (Nat.le_zero.mp hlength))
  rw [List.cons_append, hturn tail hleft n (by rw [List.length_append]; omega)]
  exact hreads tail htail n (by rw [List.length_append]; omega)

theorem ReadsTests.turn_of_steady {read : Reader α} (hread : Steady stops read)
    (hstops : ∀ {tail}, EndsCompound tail → stops tail) {x : Char} {c d : Compound}
    {f : α → Compound}
    (hturn : ∀ n cs, readTests (n + 1) c (x :: cs) = do
      let (a, left) ← read cs
      readTests n (f a) left) {a : α} {left : List Char} (ha : read cs = .ok (a, left))
    (hlater : ReadsTests (f a) left d r) : ReadsTests c (x :: cs) d r := by
  refine .turn (hread.length_le ha) (fun tail htail n _ => ?_) hlater
  rw [hturn, hread.append ha fun hnil => hstops (htail hnil)]
  rfl

theorem ReadsTests.tagged {c : Compound} (h : ReadsTests (readTag cs).1 (readTag cs).2 c r)
    (hne : cs ≠ []) (htail : r = [] → EndsCompound tail) {n : Nat} (hn : (cs ++ tail).length < n) :
    readTests n (readTag (cs ++ tail)).1 (readTag (cs ++ tail)).2 = .ok (c, r ++ tail) := by
  have hle := length_readTag_le cs
  have hends : (readTag cs).2 = [] → EndsName tail := by
    intro hnil
    have hr := h.1
    rw [hnil] at hr
    exact (htail (List.length_eq_zero_iff.mp (Nat.le_zero.mp hr))).follows.endsName
  rw [readTag_append_tail hne hends]
  rw [List.length_append] at hn
  exact h.2 tail htail n (by rw [List.length_append]; omega)

theorem ne_nil_of_tagged {n : Nat} {c : Compound}
    (h : readTests n (readTag cs).1 (readTag cs).2 = .ok (c, r)) : cs ≠ [] := by
  rintro rfl
  cases n <;> contradiction

theorem ReadsTests.exclusion {name : String} {c inner d : Compound}
    {afterName opened afterInner left : List Char} (hname : readName cs = .ok (name, afterName))
    (hnot : lowercase name = "not") (hopen : afterName = '(' :: opened)
    (hne : dropBlanks opened ≠ [])
    (hinner : ReadsTests (readTag (dropBlanks opened)).1 (readTag (dropBlanks opened)).2 inner
      afterInner)
    (hclose : dropBlanks afterInner = ')' :: left)
    (hlater : ReadsTests (c.addExcluded inner) left d r) : ReadsTests c (':' :: cs) d r := by
  have hopened := length_dropBlanks_le opened
  have htag := length_readTag_le (dropBlanks opened)
  have hclosed := length_dropBlanks_le afterInner
  have hafterName := steady_readName.length_le hname
  have hafterInner := hinner.1
  subst hopen
  rw [List.length_cons] at hafterName
  rw [hclose, List.length_cons] at hclosed
  refine .turn (by omega) (fun tail _ n hn => ?_) hlater
  have hsome : afterInner = [] → EndsCompound tail := by
    rintro rfl
    contradiction
  have hread := hinner.tagged hne hsome (n := n) (by
    simp only [List.length_append] at hn ⊢
    omega)
  rw [← dropBlanks_append_of_ne hne] at hread
  refine readTests_exclusion (steady_readName.append hname nofun) hnot rfl hread ?_
  rw [dropBlanks_append_of_ne (hclose ▸ List.cons_ne_nil _ _), hclose]
  rfl

/-- By the number of turns that were left: what the first one leaves is read with one less. -/
theorem readsTests {n : Nat} {c d : Compound} (h : readTests n c cs = .ok (d, r)) :
    ReadsTests c cs d r := by
  induction n generalizing c cs d r with
  | zero => contradiction
  | succ n ih =>
    unfold readTests at h
    split at h
    · obtain ⟨⟨id, left⟩, hid, hlater⟩ := bind_eq_ok.mp h
      exact .turn_of_steady (f := (c.addId ·)) steady_readName
        (fun htail => htail.follows.endsName) (fun _ _ => rfl) hid (ih hlater)
    · obtain ⟨⟨name, left⟩, hname, hlater⟩ := bind_eq_ok.mp h
      exact .turn_of_steady (f := (c.addClass ·)) steady_readName
        (fun htail => htail.follows.endsName) (fun _ _ => rfl) hname (ih hlater)
    · obtain ⟨⟨t, left⟩, ht, hlater⟩ := bind_eq_ok.mp h
      exact .turn_of_steady (f := (c.addAttribute ·)) steady_readAttribute (fun _ => trivial)
        (fun _ _ => rfl) ht (ih hlater)
    · obtain ⟨name, afterName, opened, inner, afterInner, left, hname, hnot, hopen, hinner, hclose,
        hlater⟩ := exists_of_readTests_exclusion h
      exact .exclusion hname hnot (after_eq_ok_iff.mp hopen) (ne_nil_of_tagged hinner) (ih hinner)
        (after_eq_ok_iff.mp hclose) (ih hlater)
    · next hid hclass hattribute hexclusion =>
      split_ifs at h with hempty
      obtain ⟨rfl, rfl⟩ := Prod.mk.inj (Except.ok.inj h)
      refine ⟨Nat.le_refl _, fun tail htail n hn => ?_⟩
      have hc : c.isEmpty = false := by simpa using hempty
      cases cs with
      | nil => exact readTests_end hc (htail rfl) hn
      | cons x more =>
        obtain ⟨n, rfl⟩ := Nat.exists_eq_succ_of_ne_zero (Nat.ne_zero_of_lt hn)
        refine readTests_stop hc ?_ n
        rintro _ ⟨⟩ hx
        simp only [List.mem_cons, List.not_mem_nil, or_false] at hx
        rcases hx with rfl | rfl | rfl | rfl
        · exact hid more rfl
        · exact hclass more rfl
        · exact hattribute more rfl
        · exact hexclusion more rfl

theorem steady_readCompound : Steady EndsCompound readCompound := by
  refine ⟨fun h => ne_nil_of_tagged h, fun h => ?_, fun h htail => ?_⟩
  · exact (readsTests h).1.trans (length_readTag_le _)
  · exact (readsTests h).tagged (ne_nil_of_tagged h) htail (Nat.lt_succ_self _)

end Walkthrough.Selector
