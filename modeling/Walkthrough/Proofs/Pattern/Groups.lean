import Mathlib.Data.List.Basic
import Walkthrough.Proofs.Pattern.Forms

namespace Walkthrough.Pattern

def Fixes (f : State → α) (step : State → List State) : Prop :=
  ∀ s, ∀ t ∈ step s, f t = f s

section Fixes

variable {f : State → α} {step : State → List State} {greedy : Bool}

theorem Fixes.andThen {step' : State → List State} (h : Fixes f step) (h' : Fixes f step') :
    Fixes f fun s => (step s).flatMap step' := by
  intro s t ht
  obtain ⟨u, hu, ht⟩ := List.mem_flatMap.mp ht
  exact (h' u t ht).trans (h s u hu)

theorem Fixes.exactly (h : Fixes f step) (n : Nat) : Fixes f (exactly step n) := by
  induction n with
  | zero =>
    intro s t ht
    rw [List.mem_singleton.mp ht]
  | succ n ih => exact h.andThen ih

theorem Fixes.atMost (h : Fixes f step) (n : Nat) : Fixes f (atMost step greedy n) := by
  induction n with
  | zero =>
    intro s t ht
    rw [List.mem_singleton.mp ht]
  | succ n ih =>
    intro s t ht
    obtain rfl | ⟨u, hu, ht⟩ := mem_atMost_succ.mp ht
    · rfl
    · exact (ih u t ht).trans (h s u hu)

theorem mem_or_fixed_of_cons {s t : State} {found : List State} (ht : t ∈ s :: found) :
    t ∈ found ∨ f t = f s := by
  obtain rfl | ht := List.mem_cons.mp ht
  · exact .inr rfl
  · exact .inl ht

/-- Searches that add only states with the value of where they start from. -/
theorem fixed_of_mem_foldl {a : α} (search : List State → State → List State)
    (hsearch : ∀ found s, ∀ t ∈ search found s, t ∈ found ∨ f t = f s) {l found : List State}
    (hl : ∀ s ∈ l, f s = a) {t : State} (ht : t ∈ l.foldl search found) : t ∈ found ∨ f t = a := by
  induction l generalizing found with
  | nil => exact .inl ht
  | cons s l ih =>
    obtain ⟨hs, hl⟩ := List.forall_mem_cons.mp hl
    obtain ht | ht := ih hl ht
    · exact (hsearch found s t ht).imp_right (·.trans hs)
    · exact .inr ht

theorem Fixes.rounds (h : Fixes f step) (n : Nat) (found : List State) (s : State) :
    ∀ t ∈ rounds step greedy n found s, t ∈ found ∨ f t = f s := by
  induction n generalizing found s with
  | zero =>
    intro t ht
    unfold Pattern.rounds at ht
    split at ht
    · exact .inl ht
    · exact mem_or_fixed_of_cons ht
  | succ n ih =>
    intro t ht
    have hmoved : ∀ u ∈ (step s).filter (·.isBeyond s), f u = f s :=
      fun u hu => h s u (List.mem_filter.mp hu).1
    unfold Pattern.rounds at ht
    split at ht
    · exact .inl ht
    · split at ht
      · obtain rfl | ht := List.mem_cons.mp ht
        · exact .inr rfl
        · exact fixed_of_mem_foldl _ ih hmoved ht
      · obtain ht | ht := fixed_of_mem_foldl _ ih hmoved ht
        · exact mem_or_fixed_of_cons ht
        · exact .inr ht

theorem Fixes.plus (h : Fixes f step) : Fixes f (plus step greedy) := by
  intro s t ht
  have hsearch : ∀ found u, ∀ t ∈ roundsAfter step greedy s found u, t ∈ found ∨ f t = f u :=
    fun found u => h.rounds _ found u
  obtain ht | ht := fixed_of_mem_foldl _ hsearch (h s) (List.mem_reverse.mp ht)
  · contradiction
  · exact ht

theorem Fixes.star (h : Fixes f step) : Fixes f (star step greedy) := by
  intro s t ht
  obtain rfl | ht := mem_star.mp ht
  · rfl
  · exact h.plus s t ht

end Fixes

def groups : Pattern → List Nat
  | empty | one _ | anchor _ => []
  | seq p q | either p q => p.groups ++ q.groups
  | many _ _ _ p => p.groups
  | group i p => i :: p.groups

theorem groups_spelled (cs : List Char) (p : Pattern) : (spelled cs p).groups = p.groups := by
  induction cs with
  | nil => rfl
  | cons x cs ih => exact ih

/-- The runs of a pattern capture nothing for groups that it does not have. -/
theorem lookup_runs {p : Pattern} {i : Nat} (hi : i ∉ p.groups) :
    Fixes (fun s => s.2.lookup i) p.runs := by
  induction p with
  | empty =>
    intro s t ht
    rw [List.mem_singleton.mp ht]
  | one set =>
    intro s t ht
    unfold runs at ht
    split at ht
    · split at ht
      · rw [List.mem_singleton.mp ht]
      · contradiction
    · contradiction
  | anchor a =>
    intro s t ht
    unfold runs at ht
    split at ht
    · rw [List.mem_singleton.mp ht]
    · contradiction
  | seq p q ihp ihq =>
    obtain ⟨hp, hq⟩ : i ∉ p.groups ∧ i ∉ q.groups := by simpa [groups] using hi
    exact (ihp hp).andThen (ihq hq)
  | either p q ihp ihq =>
    obtain ⟨hp, hq⟩ : i ∉ p.groups ∧ i ∉ q.groups := by simpa [groups] using hi
    intro s t ht
    exact (List.mem_append.mp ht).elim (ihp hp s t) (ihq hq s t)
  | many least most greedy p ih =>
    have hp := ih hi
    intro s t ht
    unfold runs at ht
    split at ht
    · exact hp.star s t ht
    · exact (hp.exactly _).andThen hp.plus s t ht
    · exact (hp.exactly _).andThen (hp.atMost _) s t ht
  | group j p ih =>
    obtain ⟨hj, hp⟩ : i ≠ j ∧ i ∉ p.groups := by simpa [groups] using hi
    intro s t ht
    obtain ⟨u, hu, rfl⟩ := List.mem_map.mp ht
    have hlookup : List.lookup i ((j, s.1, u.1) :: u.2) = List.lookup i u.2 := by
      rw [List.lookup_cons, beq_false_of_ne hj]
    exact hlookup.trans (ih hp s u hu)

/-- What a pattern has before the group, in it and after it, where the group stands in a row of
patterns. -/
def cut? (i : Nat) : Pattern → Option (Pattern × Pattern × Pattern)
  | group j p => if j = i then some (empty, p, empty) else none
  | seq p q =>
    match p.cut? i with
    | some (a, g, b) => some (a, g, seq b q)
    | none => (q.cut? i).map fun (a, g, b) => (seq p a, g, b)
  | _ => none

theorem cut?_spelled {i : Nat} {p a g b : Pattern} (h : p.cut? i = some (a, g, b))
    (cs : List Char) : (spelled cs p).cut? i = some (spelled cs a, g, b) := by
  induction cs with
  | nil => exact h
  | cons x cs ih =>
    have hcut : (spelled (x :: cs) p).cut? i =
        ((spelled cs p).cut? i).map fun (a, g, b) => (seq (one (.letter x)) a, g, b) := rfl
    rw [hcut, ih]
    rfl

theorem runs_of_cut? {i : Nat} {p a g b : Pattern} (h : p.cut? i = some (a, g, b)) (s : State) :
    p.runs s = (seq a (seq (group i g) b)).runs s := by
  induction p generalizing a b s with
  | group j p _ =>
    unfold cut? at h
    split at h
    · rename_i hj
      obtain ⟨rfl, rfl, rfl⟩ : empty = a ∧ p = g ∧ empty = b := by simpa using h
      simp [runs, hj]
    · contradiction
  | seq p q ihp ihq =>
    unfold cut? at h
    split at h
    · rename_i a' g' b' hp
      obtain ⟨rfl, rfl, rfl⟩ : a' = a ∧ g' = g ∧ seq b' q = b := by simpa using h
      simp only [runs, ihp hp, List.flatMap_assoc]
    · obtain ⟨⟨a', g', b'⟩, hq, heq⟩ := Option.map_eq_some_iff.mp h
      obtain ⟨rfl, rfl, rfl⟩ : seq p a' = a ∧ g' = g ∧ b' = b := by simpa using heq
      have hruns : q.runs = (seq a' (seq (group i g') b')).runs := funext fun s => ihq hq s
      simp only [runs, hruns, List.flatMap_assoc]
  | _ => contradiction

theorem leads_iff_of_cut? {i : Nat} {p a g b : Pattern} (h : p.cut? i = some (a, g, b))
    {c e : Cursor} :
    p.Leads c e ↔ ∃ d, a.Leads c d ∧ ∃ f, g.Leads d f ∧ b.Leads f e := by
  rw [runs_realizes p (c, []) e, runs_of_cut? h]
  exact (runs_realizes (seq a (seq (group i g) b)) (c, []) e).symm

theorem mem_groups_of_cut? {i : Nat} {p a g b : Pattern} (h : p.cut? i = some (a, g, b)) :
    i ∈ p.groups := by
  induction p generalizing a g b with
  | group j p _ =>
    unfold cut? at h
    split at h
    · rename_i hj
      simp [groups, hj]
    · contradiction
  | seq p q ihp ihq =>
    unfold cut? at h
    split at h
    · rename_i hp
      exact List.mem_append_left _ (ihp hp)
    · obtain ⟨⟨a', g', b'⟩, hq, -⟩ := Option.map_eq_some_iff.mp h
      exact List.mem_append_right _ (ihq hq)
  | _ => contradiction

/-- A run captures for a group what is read between the part before it and the part after it. -/
theorem mem_runs_of_cut? {i : Nat} {p a g b : Pattern} (h : p.cut? i = some (a, g, b))
    (hi : i ∉ b.groups) {s t : State} (ht : t ∈ p.runs s) :
    ∃ c d, a.Leads s.1 c ∧ g.Leads c d ∧ b.Leads d t.1 ∧ t.2.lookup i = some (c, d) := by
  rw [runs_of_cut? h] at ht
  obtain ⟨u, hu, ht⟩ := List.mem_flatMap.mp ht
  obtain ⟨v, hv, ht⟩ := List.mem_flatMap.mp ht
  obtain ⟨w, hw, rfl⟩ := List.mem_map.mp hv
  refine ⟨u.1, w.1, (runs_realizes a).of_mem hu, (runs_realizes g).of_mem hw,
    (runs_realizes b).of_mem (s := (w.1, (i, u.1, w.1) :: w.2)) ht, ?_⟩
  have hkept : t.2.lookup i = ((i, u.1, w.1) :: w.2).lookup i := lookup_runs hi _ t ht
  rw [hkept, List.lookup_cons_self]

theorem Match.group?_of_lookup {m : Match} {i : Nat} (hi : i ≠ 0) {c d : Cursor}
    (hlookup : m.captures.lookup i = some (c, d)) {u : List Char} (hu : Reads c u d) :
    m.group? i = some u := by
  have hsize : d.position - c.position = u.length := by
    rw [hu.position_eq]
    omega
  unfold group?
  rw [if_neg (by simpa using hi), hlookup, Option.map_some]
  dsimp only
  rw [Cursor.upTo, hsize, hu.after_eq, List.take_left]

theorem group?_of_not_mem {p : Pattern} {i : Nat} (hzero : i ≠ 0) (hi : i ∉ p.groups)
    {text : List Char} {m : Match} (hm : p.find? text = some m) : m.group? i = none := by
  obtain ⟨o, -, hmatch⟩ := List.exists_of_findSome?_eq_some hm
  obtain ⟨t, ht, rfl⟩ := Option.map_eq_some_iff.mp hmatch
  have hlookup : t.2.lookup i = none := lookup_runs hi (o, []) t (List.mem_of_head? ht)
  rw [Match.group?, if_neg (by simpa using hzero), hlookup, Option.map_none]

theorem matchAt_of_find? {p : Pattern} (ho : p.opens = true) {text : List Char} {m : Match}
    (hm : p.find? text = some m) : p.matchAt (.start text) = some m := by
  obtain ⟨o, ho', hmatch⟩ := List.exists_of_findSome?_eq_some hm
  obtain ⟨t, ht, -⟩ := Option.map_eq_some_iff.mp hmatch
  have hleads : p.Leads o t.1 := (runs_realizes p).of_mem (s := (o, [])) (List.mem_of_head? ht)
  obtain rfl : o = .start text := previous_of_mem_tails ho' (previous_of_opens ho hleads)
  exact hmatch

theorem mem_runs_of_find? {p : Pattern} (ho : p.opens = true) {text : List Char} {m : Match}
    (hm : p.find? text = some m) :
    ∃ t ∈ p.runs (Cursor.start text, []), m = ⟨Cursor.start text, t.1, t.2⟩ := by
  obtain ⟨t, ht, rfl⟩ := Option.map_eq_some_iff.mp (matchAt_of_find? ho hm)
  exact ⟨t, List.mem_of_head? ht, rfl⟩

theorem group?_zero_of_find? {p : Pattern} (ho : p.opens = true) (hc : p.closes = true)
    {text : List Char} {m : Match} (hm : p.find? text = some m) :
    Reads (.start text) text m.stop ∧ m.group? 0 = some text := by
  obtain ⟨t, hrun, rfl⟩ := mem_runs_of_find? ho hm
  have hleads : p.Leads (.start text) t.1 := (runs_realizes p).of_mem hrun
  obtain ⟨u, hu⟩ := leads_forward p _ _ hleads
  have htext : text = u := by
    have hall : text = u ++ t.1.after := hu.after_eq
    rw [hall, after_of_closes hc hleads, List.append_nil]
  have hread : Reads (.start text) text t.1 := by
    rw [htext] at hu ⊢
    exact hu
  refine ⟨hread, ?_⟩
  have hsize : t.1.position = text.length := by
    rw [hread.position_eq]
    exact Nat.zero_add _
  show some ((Cursor.start text).upTo t.1) = some text
  rw [Cursor.upTo, hsize]
  exact congrArg some (List.take_length (l := text))

/-- A match of a pattern for a whole text splits the text at a group, and the group holds what it
reads. -/
theorem find?_of_cut? {i : Nat} {p a g b : Pattern} (ho : p.opens = true) (hc : p.closes = true)
    (h : p.cut? (i + 1) = some (a, g, b)) (hi : i + 1 ∉ b.groups) {text : List Char} {m : Match}
    (hm : p.find? text = some m) :
    ∃ w u v c d e, text = w ++ (u ++ v) ∧ Reads (.start text) w c ∧ Reads c u d ∧ Reads d v e ∧
      a.Leads (.start text) c ∧ g.Leads c d ∧ b.Leads d e ∧ m.group? (i + 1) = some u := by
  obtain ⟨t, hrun, rfl⟩ := mem_runs_of_find? ho hm
  have hleads : p.Leads (.start text) t.1 := (runs_realizes p).of_mem hrun
  obtain ⟨c, d, ha, hg, hb, hgroup⟩ := mem_runs_of_cut? h hi hrun
  obtain ⟨w, hw⟩ := leads_forward a _ _ ha
  obtain ⟨u, hu⟩ := leads_forward g _ _ hg
  obtain ⟨v, hv⟩ := leads_forward b _ _ hb
  have htext : text = w ++ (u ++ v) := by
    have hall : text = w ++ c.after := hw.after_eq
    rw [hall, hu.after_eq, hv.after_eq, after_of_closes hc hleads, List.append_nil]
  refine ⟨w, u, v, c, d, t.1, htext, hw, hu, hv, ha, hg, hb, ?_⟩
  exact Match.group?_of_lookup (by simp) hgroup hu

/-- What the group of a pattern for a whole text reads, where nothing behind it captures for the same
group. -/
def body? (p : Pattern) (i : Nat) : Option Pattern :=
  if p.opens && p.closes then
    (p.cut? i).bind fun (_, g, b) => if b.groups.contains i then none else some g
  else none

theorem find?_of_body? {i : Nat} {p g : Pattern} (h : p.body? (i + 1) = some g) {text : List Char}
    {m : Match} (hm : p.find? text = some m) :
    ∃ u c d, m.group? (i + 1) = some u ∧ u <:+: text ∧ Reads c u d ∧ g.Leads c d := by
  simp only [body?, Option.ite_none_right_eq_some, Bool.and_eq_true, Option.bind_eq_some_iff,
    Option.ite_none_left_eq_some, List.contains_eq_mem, decide_eq_true_eq, Option.some.injEq] at h
  obtain ⟨⟨ho, hc⟩, ⟨a, g, b⟩, hcut, hi, rfl⟩ := h
  obtain ⟨w, u, v, c, d, e, htext, -, hu, -, -, hg, -, hgroup⟩ := find?_of_cut? ho hc hcut hi hm
  refine ⟨u, c, d, hgroup, ⟨w, v, ?_⟩, hu, hg⟩
  rw [htext, List.append_assoc]

end Walkthrough.Pattern
