import Mathlib.Tactic.Common
import Walkthrough.Proofs.Pattern.Leads

namespace Walkthrough.Pattern

/-- `step` stops where `r` leads, whatever has been captured. -/
def Realizes (step : State → List State) (r : Cursor → Cursor → Prop) : Prop :=
  ∀ s d, r s.1 d ↔ ∃ t ∈ step s, t.1 = d

variable {step : State → List State} {r : Cursor → Cursor → Prop} {greedy : Bool}

theorem Realizes.of_mem (h : Realizes step r) {s t : State} (ht : t ∈ step s) : r s.1 t.1 :=
  (h s t.1).mpr ⟨t, ht, rfl⟩

theorem Realizes.congr {r' : Cursor → Cursor → Prop} (h : Realizes step r)
    (hr : ∀ c d, r' c d ↔ r c d) : Realizes step r' :=
  fun s d => (hr s.1 d).trans (h s d)

/-- Steps from each stop lead where the two lead one after the other. -/
theorem Realizes.andThen {step' : State → List State} {r' : Cursor → Cursor → Prop}
    (h : Realizes step r) (h' : Realizes step' r') :
    Realizes (fun s => (step s).flatMap step') fun c e => ∃ d, r c d ∧ r' d e := by
  intro s e
  simp only [List.mem_flatMap]
  constructor
  · intro hway
    obtain ⟨d, hd, he⟩ := hway
    obtain ⟨t, ht, rfl⟩ := (h s d).mp hd
    obtain ⟨u, hu, rfl⟩ := (h' t e).mp he
    exact ⟨u, ⟨t, ht, hu⟩, rfl⟩
  · intro hway
    obtain ⟨u, ⟨t, ht, hu⟩, rfl⟩ := hway
    exact ⟨t.1, h.of_mem ht, h'.of_mem hu⟩

theorem Realizes.orStay {step' : State → List State} (h : Realizes step r)
    (hmem : ∀ s t, t ∈ step' s ↔ t = s ∨ t ∈ step s) : Realizes step' fun c d => c = d ∨ r c d := by
  intro s d
  simp only [hmem, or_and_right, exists_or, exists_eq_left, h s d]

theorem exactly_realizes (h : Realizes step r) (n : Nat) :
    Realizes (exactly step n) (Moves r n) := by
  induction n with
  | zero => intro s d; simp [exactly, Moves]
  | succ n ih => exact h.andThen ih

theorem mem_atMost_succ {n : Nat} {s t : State} :
    t ∈ atMost step greedy (n + 1) s ↔ t = s ∨ ∃ u ∈ step s, t ∈ atMost step greedy n u := by
  cases greedy <;> simp [atMost, or_comm]

theorem atMost_realizes (h : Realizes step r) (n : Nat) :
    Realizes (atMost step greedy n) fun c d => ∃ k, k ≤ n ∧ Moves r k c d := by
  induction n with
  | zero =>
    intro s d
    simp only [atMost, List.mem_singleton, exists_eq_left, Nat.le_zero]
    rfl
  | succ n ih =>
    have hmem (s t : State) : t ∈ atMost step greedy (n + 1) s ↔
        t = s ∨ t ∈ (step s).flatMap (atMost step greedy n) := by
      rw [mem_atMost_succ, List.mem_flatMap]
    refine ((h.andThen ih).orStay hmem).congr fun c d => ?_
    constructor
    · intro h
      obtain ⟨k, hk, hm⟩ := h
      cases k with
      | zero => exact .inl hm
      | succ k =>
        obtain ⟨e, he, hm⟩ := hm
        exact .inr ⟨e, he, k, by omega, hm⟩
    · intro h
      obtain rfl | ⟨e, he, k, hk, hm⟩ := h
      · exact ⟨0, by omega, rfl⟩
      · exact ⟨k + 1, by omega, e, he, hm⟩

/-- What is found from position `k` on has been followed up: a round that moves on from it stops at
a place where something is found. -/
def Settled (r : Cursor → Cursor → Prop) (k : Nat) (found : List State) : Prop :=
  ∀ t ∈ found, k ≤ t.1.position → ∀ d, r t.1 d → t.1.position < d.position → ∃ u ∈ found, u.1 = d

structure Grows (r : Cursor → Cursor → Prop) (k : Nat) (s : Cursor) (found more : List State) :
    Prop where
  keeps : ∀ u ∈ found, u ∈ more
  arrives : ∃ u ∈ more, u.1 = s
  settled : Settled r k more
  sound : ∀ u ∈ more, u ∈ found ∨ ∃ n, Moves r n s u.1

theorem hasPlaceOf_iff {o : Cursor} {found : List State} {s : State}
    (hf : ∀ t ∈ found, Before o t.1) (hs : Before o s.1) :
    hasPlaceOf found s = true ↔ ∃ t ∈ found, t.1 = s.1 := by
  simp only [hasPlaceOf, List.any_eq_true, beq_iff_eq]
  constructor
  · intro h
    obtain ⟨t, ht, hp⟩ := h
    exact ⟨t, ht, (hf t ht).eq_of_position hs hp⟩
  · intro h
    obtain ⟨t, ht, hp⟩ := h
    exact ⟨t, ht, by rw [hp]⟩

/-- Searches one after the other add up. -/
theorem grows_foldl {o : Cursor} {k : Nat} (search : List State → State → List State)
    (hr : Forward r) (ts : List State) (hts : ∀ t ∈ ts, Before o t.1)
    (hsearch : ∀ t ∈ ts, ∀ found, (∀ u ∈ found, Before o u.1) → Settled r k found →
      Grows r k t.1 found (search found t))
    (found : List State) (hf : ∀ u ∈ found, Before o u.1) (hk : Settled r k found) :
    (∀ u ∈ found, u ∈ ts.foldl search found) ∧
      (∀ t ∈ ts, ∃ u ∈ ts.foldl search found, u.1 = t.1) ∧
      Settled r k (ts.foldl search found) ∧
      ∀ u ∈ ts.foldl search found, u ∈ found ∨ ∃ t ∈ ts, ∃ n, Moves r n t.1 u.1 := by
  induction ts generalizing found with
  | nil => exact ⟨fun _ hu => hu, by simp, hk, fun _ hu => .inl hu⟩
  | cons t ts ih =>
    have hg := hsearch t (by simp) found hf hk
    have hf' : ∀ u ∈ search found t, Before o u.1 := fun u hu =>
      (hg.sound u hu).elim (hf u) fun ⟨_, hn⟩ => (hts t (by simp)).trans (hr.moves hn)
    obtain ⟨hkeep, hall, hset, hsound⟩ := ih (fun u hu => hts u (by simp [hu]))
      (fun u hu => hsearch u (by simp [hu])) _ hf' hg.settled
    refine ⟨fun u hu => hkeep u (hg.keeps u hu), ?_, hset, ?_⟩
    · intro u hu
      obtain rfl | hu := List.mem_cons.mp hu
      · obtain ⟨v, hv, he⟩ := hg.arrives
        exact ⟨v, hkeep v hv, he⟩
      · exact hall u hu
    · intro u hu
      obtain hu | ⟨v, hv, hn⟩ := hsound u hu
      · exact (hg.sound u hu).imp_right fun hn => ⟨t, by simp, hn⟩
      · exact .inr ⟨v, by simp [hv], hn⟩

/-- The moves of `s` that go on, followed up one by one from `start`, are all that a search from
`s` has to add; `s` itself is put in before or after. -/
theorem grows_of_moved {o : Cursor} {k : Nat} (search : List State → State → List State)
    (start : List State) (h : Realizes step r) (hr : Forward r) {found more : List State} {s : State}
    (hf : ∀ u ∈ found, Before o u.1) (hs : Before o s.1) (hks : k ≤ s.1.position)
    (hk : Settled r k found)
    (hsearch : ∀ t ∈ step s, s.1.position < t.1.position → ∀ found, (∀ u ∈ found, Before o u.1) →
      Settled r (s.1.position + 1) found →
      Grows r (s.1.position + 1) t.1 found (search found t))
    (hstart : ∀ u, u ∈ start ↔ u ∈ found ∨ u = s ∧ s ∈ start)
    (hmore : more = s :: ((step s).filter (·.isBeyond s)).foldl search start ∨
      s ∈ start ∧ more = ((step s).filter (·.isBeyond s)).foldl search start) :
    Grows r k s.1 found more := by
  have hmoved : ∀ t, t ∈ (step s).filter (·.isBeyond s) ↔
      t ∈ step s ∧ s.1.position < t.1.position := by simp [State.isBeyond]
  have hfs : ∀ u ∈ start, Before o u.1 := by
    intro u hu
    obtain hu | ⟨rfl, -⟩ := (hstart u).mp hu
    exacts [hf u hu, hs]
  -- What is found beyond `s` is settled, and `s` is not beyond itself.
  have hlater : Settled r (s.1.position + 1) start := by
    intro t ht hkt d hd hlt
    obtain ht | ⟨rfl, -⟩ := (hstart t).mp ht
    · obtain ⟨u, hu, he⟩ := hk t ht (by omega) d hd hlt
      exact ⟨u, (hstart u).mpr (.inl hu), he⟩
    · omega
  obtain ⟨hkeep, hall, hset, hsound⟩ := grows_foldl search hr _
    (fun t ht => hs.trans (hr _ _ (h.of_mem ((hmoved t).mp ht).1)))
    (fun t ht => hsearch t ((hmoved t).mp ht).1 ((hmoved t).mp ht).2) start hfs hlater
  have hmore : ∀ u, u ∈ more ↔ u = s ∨ u ∈ ((step s).filter (·.isBeyond s)).foldl search start := by
    obtain rfl | ⟨hs, rfl⟩ := hmore
    · simp
    · exact fun u => ⟨.inr, fun hu => hu.elim (fun he => he ▸ hkeep s hs) id⟩
  have hnew : ∀ u ∈ more, u = s ∨ u ∈ found ∨
      s.1.position < u.1.position ∧ ∃ n, Moves r n s.1 u.1 := by
    intro u hu
    obtain rfl | hu := (hmore u).mp hu
    · exact .inl rfl
    obtain hu | ⟨t, ht, n, hn⟩ := hsound u hu
    · exact ((hstart u).mp hu).symm.imp And.left .inl
    · have hlt := ((hmoved t).mp ht).2
      have := (hr.moves hn).position_le
      exact .inr (.inr ⟨by omega, n + 1, t.1, h.of_mem ((hmoved t).mp ht).1, hn⟩)
  have hkeeps : ∀ u ∈ found, u ∈ more := fun u hu =>
    (hmore u).mpr (.inr (hkeep u ((hstart u).mpr (.inl hu))))
  refine ⟨hkeeps, ⟨s, (hmore s).mpr (.inl rfl), rfl⟩, ?_, ?_⟩
  · intro t ht hkt d hd hlt
    obtain rfl | ht' | ⟨hlt', -⟩ := hnew t ht
    · obtain ⟨u, hu, rfl⟩ := (h t d).mp hd
      obtain ⟨v, hv, he⟩ := hall u ((hmoved u).mpr ⟨hu, hlt⟩)
      exact ⟨v, (hmore v).mpr (.inr hv), he⟩
    · obtain ⟨u, hu, he⟩ := hk t ht' hkt d hd hlt
      exact ⟨u, hkeeps u hu, he⟩
    · obtain rfl | ht := (hmore t).mp ht
      · omega
      obtain ⟨u, hu, he⟩ := hset t ht (by omega) d hd hlt
      exact ⟨u, (hmore u).mpr (.inr hu), he⟩
  · intro u hu
    obtain rfl | hu | ⟨-, hn⟩ := hnew u hu
    exacts [.inr ⟨0, rfl⟩, .inl hu, .inr hn]

theorem rounds_grows {o : Cursor} (h : Realizes step r) (hr : Forward r) {n k : Nat}
    {found : List State} {s : State} (hf : ∀ u ∈ found, Before o u.1) (hs : Before o s.1)
    (hn : s.1.after.length ≤ n) (hks : k ≤ s.1.position) (hk : Settled r k found) :
    Grows r k s.1 found (rounds step greedy n found s) := by
  induction n generalizing k found s with
  | zero =>
    unfold rounds
    split
    · next hp =>
      exact ⟨fun _ hu => hu, (hasPlaceOf_iff hf hs).mp hp, hk, fun _ hu => .inl hu⟩
    · -- At the end of the text no move goes on.
      have hstay : ∀ t ∈ step s, ¬ s.1.position < t.1.position := by
        intro t ht hlt
        obtain ⟨u, hu⟩ := hr _ _ (h.of_mem ht)
        have := hu.length_after
        omega
      refine grows_of_moved (fun found _ => found) found h hr hf hs hks hk
        (fun t ht hlt => absurd hlt (hstay t ht))
        (fun u => ⟨.inl, fun hu => hu.elim id fun hs => hs.1 ▸ hs.2⟩) (.inl ?_)
      rw [List.filter_eq_nil_iff.mpr fun t ht => by simpa [State.isBeyond] using hstay t ht]
      rfl
  | succ n ih =>
    have hsearch : ∀ t ∈ step s, s.1.position < t.1.position → ∀ found,
        (∀ u ∈ found, Before o u.1) → Settled r (s.1.position + 1) found →
        Grows r (s.1.position + 1) t.1 found (rounds step greedy n found t) := by
      intro t ht hlt found hf hk
      obtain ⟨u, hu⟩ := hr _ _ (h.of_mem ht)
      have := hu.length_after
      exact ih hf (hs.trans ⟨u, hu⟩) (by omega) (by omega) hk
    unfold rounds
    split
    · next hp =>
      exact ⟨fun _ hu => hu, (hasPlaceOf_iff hf hs).mp hp, hk, fun _ hu => .inl hu⟩
    cases greedy with
    | true =>
      exact grows_of_moved _ found h hr hf hs hks hk hsearch
        (fun u => ⟨.inl, fun hu => hu.elim id fun hs => hs.1 ▸ hs.2⟩) (.inl rfl)
    | false =>
      exact grows_of_moved _ (s :: found) h hr hf hs hks hk hsearch
        (fun u => by simp [or_comm]) (.inr ⟨by simp, rfl⟩)

theorem roundsAfter_grows {o : Cursor} (h : Realizes step r) (hr : Forward r)
    {found : List State} {s t : State} (hf : ∀ u ∈ found, Before o u.1) (hs : Before o s.1)
    (hst : Before s.1 t.1) (hk : Settled r (s.1.position + 1) found) :
    Grows r (s.1.position + 1) t.1 found (roundsAfter step greedy s found t) := by
  unfold roundsAfter
  split
  · next hb =>
    exact rounds_grows h hr hf (hs.trans hst) (Nat.le_refl _)
      (by simpa [State.isBeyond, Nat.succ_le_iff] using hb) hk
  · next hb =>
    -- `t` is in the place of `s`, which the rounds from there on do not come back to.
    have hp : t.1.position = s.1.position := by
      have := hst.position_le
      simp only [State.isBeyond, decide_eq_true_eq] at hb
      omega
    unfold rounds
    split
    · next hp =>
      exact ⟨fun _ hu => hu, (hasPlaceOf_iff hf (hs.trans hst)).mp hp, hk, fun _ hu => .inl hu⟩
    · refine ⟨fun u hu => by simp [hu], ⟨t, by simp, rfl⟩, ?_, ?_⟩
      · intro u hu hku d hd hlt
        obtain rfl | hu := List.mem_cons.mp hu
        · omega
        · obtain ⟨v, hv, he⟩ := hk u hu hku d hd hlt
          exact ⟨v, by simp [hv], he⟩
      · intro u hu
        obtain rfl | hu := List.mem_cons.mp hu
        exacts [.inr ⟨0, rfl⟩, .inl hu]

/-- Where the ends of all first moves are found, and what is found beyond has been followed up, the
ends of all moves are found. -/
theorem exists_of_moves {c : Cursor} {found : List State} (hr : Forward r)
    (hfirst : ∀ d, r c d → ∃ u ∈ found, u.1 = d) (hset : Settled r (c.position + 1) found)
    {n : Nat} {d : Cursor} (h : Moves r (n + 1) c d) : ∃ u ∈ found, u.1 = d := by
  induction n generalizing d with
  | zero =>
    obtain ⟨e, he, rfl⟩ := h
    exact hfirst e he
  | succ n ih =>
    obtain ⟨e, hmoves, f, hlast, rfl⟩ := Moves.split (m := n + 1) (n := 1) h
    obtain ⟨u, hu, rfl⟩ := ih hmoves
    have hbefore := hr.moves hmoves
    obtain hback | hon := Nat.eq_or_lt_of_le hbefore.position_le
    · have hsame : c = u.1 := (Before.refl c).eq_of_position hbefore hback
      exact hfirst f (hsame ▸ hlast)
    · obtain hstay | hfar := Nat.eq_or_lt_of_le (hr _ _ hlast).position_le
      · exact ⟨u, hu, (Before.refl _).eq_of_position (hr _ _ hlast) hstay⟩
      · exact hset u hu hon f hlast hfar

theorem plus_realizes (h : Realizes step r) (hr : Forward r) :
    Realizes (plus step greedy) fun c d => ∃ n, Moves r (n + 1) c d := by
  intro s d
  obtain ⟨-, hall, hset, hsound⟩ := grows_foldl (o := s.1) (k := s.1.position + 1)
    (roundsAfter step greedy s) hr (step s) (fun t ht => hr _ _ (h.of_mem ht))
    (fun t ht found hf hk => roundsAfter_grows h hr hf (.refl _) (hr _ _ (h.of_mem ht)) hk)
    [] (by simp) (by simp [Settled])
  simp only [plus, List.mem_reverse]
  constructor
  · intro hmoves
    obtain ⟨n, hn⟩ := hmoves
    refine exists_of_moves hr (fun e he => ?_) hset hn
    obtain ⟨t, ht, rfl⟩ := (h s e).mp he
    exact hall t ht
  · intro hstop
    obtain ⟨u, hu, rfl⟩ := hstop
    obtain hu | ⟨t, ht, n, hn⟩ := hsound u hu
    · cases hu
    · exact ⟨n, t.1, h.of_mem ht, hn⟩

theorem mem_star {s t : State} : t ∈ star step greedy s ↔ t = s ∨ t ∈ plus step greedy s := by
  cases greedy <;> simp [star, or_comm]

theorem star_realizes (h : Realizes step r) (hr : Forward r) :
    Realizes (star step greedy) fun c d => ∃ n, Moves r n c d := by
  refine ((plus_realizes h hr).orStay fun _ _ => mem_star).congr fun c d => ?_
  constructor
  · intro h
    obtain ⟨n, hn⟩ := h
    cases n with
    | zero => exact .inl hn
    | succ n => exact .inr ⟨n, hn⟩
  · intro h
    obtain rfl | ⟨n, hn⟩ := h
    · exact ⟨0, rfl⟩
    · exact ⟨n + 1, hn⟩

theorem many_realizes (h : Realizes step r) (hr : Forward r) (least : Nat) (most : Option Nat) :
    Realizes (fun s => match least, most with
      | 0, none => star step greedy s
      | n + 1, none => atLeastSucc step greedy n s
      | n, some m => (exactly step n s).flatMap (atMost step greedy (m - n)))
      fun c d => ∃ n, least ≤ n ∧ (∀ m ∈ most, n ≤ max least m) ∧ Moves r n c d := by
  intro s d
  split
  · simpa using star_realizes h hr s d
  · next n =>
    refine Iff.trans ?_ ((exactly_realizes h n).andThen (plus_realizes h hr) s d)
    constructor
    · intro h
      obtain ⟨k, hk, -, hm⟩ := h
      obtain ⟨j, rfl⟩ : ∃ j, k = n + (j + 1) := ⟨k - n - 1, by omega⟩
      obtain ⟨e, hn, hj⟩ := hm.split
      exact ⟨e, hn, j, hj⟩
    · intro h
      obtain ⟨e, hn, j, hj⟩ := h
      exact ⟨n + (j + 1), by omega, by simp, hn.append hj⟩
  · next m =>
    refine Iff.trans ?_ ((exactly_realizes h least).andThen (atMost_realizes h (m - least)) s d)
    simp only [Option.mem_def, Option.some.injEq, forall_eq']
    constructor
    · intro h
      obtain ⟨k, hk, hm, hmoves⟩ := h
      obtain ⟨j, rfl⟩ : ∃ j, k = least + j := ⟨k - least, by omega⟩
      obtain ⟨e, hn, hj⟩ := hmoves.split
      exact ⟨e, hn, j, by omega, hj⟩
    · intro h
      obtain ⟨e, hn, j, hj, hm⟩ := h
      exact ⟨least + j, by omega, by omega, hn.append hm⟩

theorem runs_realizes (p : Pattern) : Realizes p.runs p.Leads := by
  induction p with
  | empty => intro s d; simp [runs, Leads]
  | one set =>
    rintro ⟨c, caps⟩ d
    simp only [runs, Leads]
    cases hc : c.next? with
    | none => simp
    | some y =>
      obtain ⟨y, e⟩ := y
      simp only [Option.some.injEq, Prod.mk.injEq]
      constructor
      · intro h
        obtain ⟨x, ⟨rfl, rfl⟩, hx⟩ := h
        exact ⟨(e, caps), by simp [hx], rfl⟩
      · intro h
        obtain ⟨t, ht, rfl⟩ := h
        split at ht
        · next hy => exact ⟨y, by simp_all, hy⟩
        · cases ht
  | anchor a =>
    intro s d
    simp only [runs, Leads]
    split
    · next ha => simp [ha]
    · next ha => simp [ha]
  | seq p q ihp ihq => exact ihp.andThen ihq
  | either p q ihp ihq =>
    intro s d
    simp only [runs, Leads, List.mem_append, ihp s d, ihq s d, or_and_right, exists_or]
  | many least most greedy p ih =>
    exact many_realizes ih (leads_forward p) least most
  | group i p ih =>
    intro s d
    simp only [runs, Leads, ih s d, List.mem_map]
    constructor
    · intro h
      obtain ⟨t, ht, rfl⟩ := h
      exact ⟨_, ⟨t, ht, rfl⟩, rfl⟩
    · intro h
      obtain ⟨_, ⟨t, ht, rfl⟩, rfl⟩ := h
      exact ⟨t, ht, rfl⟩

theorem occurs_iff (p : Pattern) (text : List Char) :
    p.occurs text = true ↔ ∃ c ∈ (Cursor.start text).tails, ∃ d, p.Leads c d := by
  simp only [occurs, find?, matchAt, List.isSome_findSome?, List.any_eq_true]
  refine exists_congr fun c => and_congr_right fun _ => ?_
  simp only [Option.isSome_map, List.isSome_head?, ne_eq,
    List.eq_nil_iff_forall_not_mem, not_forall, not_not]
  constructor
  · intro h
    obtain ⟨t, ht⟩ := h
    exact ⟨t.1, (runs_realizes p).of_mem ht⟩
  · intro h
    obtain ⟨d, hd⟩ := h
    obtain ⟨t, ht, -⟩ := (runs_realizes p (c, []) d).mp hd
    exact ⟨t, ht⟩

end Walkthrough.Pattern
