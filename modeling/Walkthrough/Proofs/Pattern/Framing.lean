import Walkthrough.Proofs.Pattern.Groups
import Walkthrough.Proofs.Pattern.Parting

namespace Walkthrough.Pattern

theorem Reads.split {u v : List Char} {c e : Cursor} (h : Reads c (u ++ v) e) :
    ∃ d, Reads c u d ∧ Reads d v e := by
  induction u generalizing c with
  | nil => exact ⟨c, rfl, h⟩
  | cons x u ih =>
    obtain ⟨f, hf, hr⟩ := h
    obtain ⟨d, hu, hv⟩ := ih hr
    exact ⟨d, ⟨f, hf, hu⟩, hv⟩

theorem Reads.text_unique {u v : List Char} {c d : Cursor} (hu : Reads c u d) (hv : Reads c v d) :
    u = v :=
  List.append_cancel_right (hu.after_eq.symm.trans hv.after_eq)

theorem Reads.eq_nil {u : List Char} {c : Cursor} (h : Reads c u c) : u = [] :=
  h.text_unique (v := []) rfl

theorem Reads.previous_eq {u : List Char} {c d c' d' : Cursor} (h : Reads c u d)
    (h' : Reads c' u d') (hc : c.previous = c'.previous) : d.previous = d'.previous := by
  induction u generalizing c c' with
  | nil => rwa [← show c = d from h, ← show c' = d' from h']
  | cons x u ih =>
    obtain ⟨e, he, hr⟩ := h
    obtain ⟨e', he', hr'⟩ := h'
    exact ih hr hr' ((next?_eq_some he).2.2.trans (next?_eq_some he').2.2.symm)

theorem Reads.after_eq_after {u : List Char} {c d c' d' : Cursor} (h : Reads c u d)
    (h' : Reads c' u d') (hc : c.after = c'.after) : d.after = d'.after := by
  rw [h.after_eq, h'.after_eq] at hc
  exact List.append_cancel_left hc

def anchors : Pattern → List Anchor
  | empty | one _ => []
  | anchor a => [a]
  | seq p q | either p q => p.anchors ++ q.anchors
  | many _ _ _ p | group _ p => p.anchors

/-- On the way through the text from the second cursor the anchors hold where they hold on the way
from the first. -/
def Carried (anchors : List Anchor) (u : List Char) (c c' : Cursor) : Prop :=
  ∀ a ∈ anchors, ∀ v w, v ++ w = u → ∀ d d', Reads c v d → Reads c' v d' →
    a.holds d = true → a.holds d' = true

theorem Carried.mono {as bs : List Anchor} {u : List Char} {c c' : Cursor} (h : Carried bs u c c')
    (hs : ∀ a ∈ as, a ∈ bs) : Carried as u c c' :=
  fun a ha => h a (hs a ha)

theorem Carried.first {as : List Anchor} {u v : List Char} {c c' : Cursor}
    (h : Carried as (u ++ v) c c') : Carried as u c c' := by
  intro a ha w x hw
  exact h a ha w (x ++ v) (by rw [← List.append_assoc, hw])

theorem Carried.rest {as : List Anchor} {u v : List Char} {c c' d d' : Cursor}
    (h : Carried as (u ++ v) c c') (hd : Reads c u d) (hd' : Reads c' u d') :
    Carried as v d d' := by
  intro a ha w x hw e e' he he'
  exact h a ha (u ++ w) x (by rw [List.append_assoc, hw]) e e' (hd.append he) (hd'.append he')

theorem carried_of_previous {as : List Anchor} (h : ∀ a ∈ as, a = .textStart) {c c' : Cursor}
    (hc : c.previous = c'.previous) (u : List Char) : Carried as u c c' := by
  intro a ha v w _ d d' hd hd' hold
  rw [h a ha] at hold ⊢
  unfold Anchor.holds at hold ⊢
  rwa [← hd.previous_eq hd' hc]

theorem carried_of_after {as : List Anchor} (h : ∀ a ∈ as, a = .textEnd) {c c' : Cursor}
    (hc : c.after = c'.after) (u : List Char) : Carried as u c c' := by
  intro a ha v w _ d d' hd hd' hold
  rw [h a ha] at hold ⊢
  unfold Anchor.holds at hold ⊢
  rwa [← hd.after_eq_after hd' hc]

theorem leads_of_carried {p : Pattern} {u : List Char} {c d c' d' : Cursor} (h : p.Leads c d)
    (hd : Reads c u d) (hd' : Reads c' u d') (ha : Carried p.anchors u c c') : p.Leads c' d' := by
  induction p generalizing u c d c' d' with
  | empty =>
    obtain rfl : c = d := h
    obtain rfl := hd.eq_nil
    exact hd'
  | one s =>
    obtain ⟨x, hx, hs⟩ := leads_one_iff.mp h
    obtain rfl := hd.text_unique hx
    exact leads_one_iff.mpr ⟨x, hd', hs⟩
  | anchor a =>
    obtain ⟨hold, rfl⟩ := h
    obtain rfl := hd.eq_nil
    exact ⟨ha a (by simp [anchors]) [] [] rfl c c' rfl rfl hold, hd'⟩
  | seq p q ihp ihq =>
    obtain ⟨e, hp, hq⟩ := h
    obtain ⟨v, hv⟩ := leads_forward p _ _ hp
    obtain ⟨w, hw⟩ := leads_forward q _ _ hq
    obtain rfl := hd.text_unique (hv.append hw)
    obtain ⟨e', hv', hw'⟩ := hd'.split
    exact ⟨e', ihp hp hv hv' (ha.first.mono fun a => List.mem_append_left _),
      ihq hq hw hw' ((ha.rest hv hv').mono fun a => List.mem_append_right _)⟩
  | either p q ihp ihq =>
    exact h.imp (ihp · hd hd' (ha.mono fun a => List.mem_append_left _))
      (ihq · hd hd' (ha.mono fun a => List.mem_append_right _))
  | many least most greedy p ih =>
    obtain ⟨n, hleast, hmost, hmoves⟩ := h
    refine ⟨n, hleast, hmost, ?_⟩
    clear hleast hmost
    induction n generalizing u c c' with
    | zero =>
      obtain rfl : c = d := hmoves
      obtain rfl := hd.eq_nil
      exact hd'
    | succ n ihn =>
      obtain ⟨e, hp, hmoves⟩ := hmoves
      obtain ⟨v, hv⟩ := leads_forward p _ _ hp
      obtain ⟨w, hw⟩ := (leads_forward p).moves hmoves
      obtain rfl := hd.text_unique (hv.append hw)
      obtain ⟨e', hv', hw'⟩ := hd'.split
      exact ⟨e', ih hp hv hv' ha.first, ihn hw hw' (ha.rest hv hv') hmoves⟩
  | group i p ih => exact ih h hd hd' ha

/-- At least one more character. -/
def onward : List Pattern :=
  [one .all, many 0 none true (one .all)]

/-- No text that the pattern reads is the beginning of another one. -/
def sharp (p : Pattern) : Bool :=
  p.anchors.all (· == .textStart) && Track.parted 60 [(true, [p]), (false, p :: onward)]

theorem through_onward {x : Char} {u : List Char} {c d : Cursor} (h : Reads c (x :: u) d) :
    Through onward c d := by
  obtain ⟨e, hx, hu⟩ := h
  refine ⟨e, leads_one_iff.mpr ⟨x, ⟨e, hx, rfl⟩, rfl⟩, d, ?_, rfl⟩
  exact leads_many_one_iff.mpr ⟨u, hu, Nat.zero_le _, nofun, fun _ _ => rfl⟩

theorem not_lt_of_sharp {p : Pattern} (h : p.sharp = true) {c d e : Cursor} (hd : p.Leads c d)
    (he : p.Leads c e) : ¬ d.position < e.position := by
  intro hlt
  simp only [sharp, Bool.and_eq_true, List.all_eq_true, beq_iff_eq] at h
  obtain ⟨u, hu⟩ := leads_forward p _ _ hd
  obtain ⟨v, hv⟩ := leads_forward p _ _ he
  have hlength : u.length < v.length := by
    rw [hu.position_eq, hv.position_eq] at hlt
    omega
  obtain ⟨w, rfl⟩ : u <+: v := by
    have hboth : c.after = v ++ e.after := hv.after_eq
    refine List.prefix_of_prefix_length_le ?_ (hboth ▸ List.prefix_append v _) (Nat.le_of_lt hlength)
    rw [hu.after_eq]
    exact List.prefix_append u _
  obtain ⟨x, w, rfl⟩ : ∃ x y, w = x :: y := by
    cases w with
    | nil => simp at hlength
    | cons x w => exact ⟨x, w, rfl⟩
  -- In the longer text by itself the pattern leads to both places.
  obtain ⟨e', hv', hend⟩ := reads_of_after (c := ⟨c.position, c.previous, u ++ x :: w⟩)
    (List.append_nil _).symm
  obtain ⟨d', hu', hw'⟩ := hv'.split
  have hcarried : ∀ t, Carried p.anchors t c ⟨c.position, c.previous, u ++ x :: w⟩ :=
    carried_of_previous h.1 (by rfl)
  have hshort : p.Leads _ d' := leads_of_carried hd hu hu' (hcarried u)
  have hlong : p.Leads _ e' := leads_of_carried he hv hv' (hcarried _)
  have hsame := Track.eq_of_parted h.2 (t := (true, [p])) (u := (false, p :: onward)) (by simp)
    (by simp) ⟨e', leads_iff_through_singleton.mp hlong, hend⟩
    ⟨e', ⟨d', hshort, through_onward hw'⟩, hend⟩
  contradiction

theorem eq_of_sharp {p : Pattern} (h : p.sharp = true) {c d e : Cursor} (hd : p.Leads c d)
    (he : p.Leads c e) : d = e := by
  have hposition : d.position = e.position :=
    Nat.le_antisymm (Nat.le_of_not_lt (not_lt_of_sharp h he hd))
      (Nat.le_of_not_lt (not_lt_of_sharp h hd he))
  exact (leads_forward p _ _ hd).eq_of_position (leads_forward p _ _ he) hposition

/-- How many characters a pattern reads, if that is always the same number. -/
def width? : Pattern → Option Nat
  | empty | anchor _ => some 0
  | one _ => some 1
  | seq p q => p.width?.bind fun n => q.width?.map (n + ·)
  | group _ p => p.width?
  | either _ _ | many _ _ _ _ => none

theorem length_of_width? {p : Pattern} {n : Nat} (h : p.width? = some n) {u : List Char}
    {c d : Cursor} (hl : p.Leads c d) (hu : Reads c u d) : u.length = n := by
  induction p generalizing n u c d with
  | empty =>
    obtain rfl : c = d := hl
    rw [hu.eq_nil]
    exact Option.some.inj h
  | one s =>
    obtain ⟨x, hx, -⟩ := leads_one_iff.mp hl
    rw [hu.text_unique hx]
    exact Option.some.inj h
  | anchor a =>
    obtain ⟨-, rfl⟩ := hl
    rw [hu.eq_nil]
    exact Option.some.inj h
  | seq p q ihp ihq =>
    simp only [width?, Option.bind_eq_some_iff, Option.map_eq_some_iff] at h
    obtain ⟨m, hm, k, hk, rfl⟩ := h
    obtain ⟨e, hp, hq⟩ := hl
    obtain ⟨v, hv⟩ := leads_forward p _ _ hp
    obtain ⟨w, hw⟩ := leads_forward q _ _ hq
    rw [hu.text_unique (hv.append hw), List.length_append, ihp hm hp hv, ihq hk hq hw]
  | group i p ih => exact ih h hl hu
  | either | many => contradiction

/-- The pattern can read the text to its end. -/
def reaches (p : Pattern) (text : List Char) : Bool :=
  (p.runs (.start text, [])).any (·.1.after.isEmpty)

theorem leads_of_reaches {p : Pattern} {text : List Char} (h : p.reaches text = true) :
    ∃ d, p.Leads (.start text) d ∧ Reads (.start text) text d ∧ d.after = [] := by
  obtain ⟨t, ht, hend⟩ := List.any_eq_true.mp h
  have hleads : p.Leads (.start text) t.1 := (runs_realizes p).of_mem ht
  have hafter : t.1.after = [] := List.isEmpty_iff.mp hend
  obtain ⟨u, hu⟩ := leads_forward p _ _ hleads
  have htext : text = u ++ [] := hafter ▸ hu.after_eq
  rw [List.append_nil] at htext
  exact ⟨t.1, hleads, htext ▸ hu, hafter⟩

/-- The set of first characters of a pattern that reads at least one, where there is but one set. -/
def first? (p : Pattern) : Option CharSet :=
  match p.heads with
  | [(s, _)] => if p.skips then none else some s
  | _ => none

theorem leads_one_of_first? {p : Pattern} {s : CharSet} (h : p.first? = some s) {c d : Cursor}
    (hl : p.Leads c d) : ∃ e, (one s).Leads c e := by
  unfold first? at h
  split at h
  · rename_i s' rest hheads
    split at h
    · contradiction
    · rename_i hskips
      obtain rfl := Option.some.inj h
      obtain ⟨-, hs⟩ | ⟨x, e, hx, w, hw, ha, -⟩ := skips_or_enters hl
      · exact absurd hs hskips
      · rw [hheads] at hw
        obtain rfl := List.mem_singleton.mp hw
        exact ⟨e, x, hx, ha⟩
  · contradiction

/-- The pattern reads `before`, in its group `i` what `g` reads, and then `behind`, and it reads such a
text in no other way. -/
def frames (p : Pattern) (i : Nat) (before behind : List Char) (g : Pattern) : Bool :=
  p.opens && p.closes && g.anchors.isEmpty && (p.cut? i).any fun (a, g', b) =>
    g' == g && a.anchors.all (· == .textStart) && b.anchors.all (· == .textEnd) &&
      a.reaches before && b.reaches behind && !b.groups.contains i &&
      b.width? == some behind.length && g.first?.any fun s => (seq a (one s)).sharp

theorem mem_groups_of_frames {p g : Pattern} {i : Nat} {before behind : List Char}
    (h : p.frames i before behind g = true) : i ∈ p.groups := by
  simp only [frames, Bool.and_eq_true, Option.any_eq_true] at h
  obtain ⟨-, ⟨a, g', b⟩, hcut, -⟩ := h
  exact mem_groups_of_cut? hcut

theorem find?_of_frames {p g : Pattern} {i : Nat} {before behind : List Char}
    (h : p.frames (i + 1) before behind g = true) {u : List Char} {c d : Cursor}
    (hg : g.Leads c d) (hu : Reads c u d) :
    ∃ m, p.find? (before ++ (u ++ behind)) = some m ∧ m.group? (i + 1) = some u := by
  simp only [frames, Bool.and_eq_true, Option.any_eq_true, List.all_eq_true, beq_iff_eq,
    List.isEmpty_iff, Bool.not_eq_true', List.contains_eq_mem, decide_eq_false_iff_not,
    and_assoc] at h
  obtain ⟨ho, hc, hplain, ⟨a, g', b⟩, hcut, rfl, ha, hb, hbefore, hbehind, hi, hwidth, s, hfirst,
    hsharp⟩ := h
  -- The parts of the text, and how the parts of the pattern lead through them.
  obtain ⟨o, ho', hoafter⟩ := reads_of_after (c := .start (before ++ (u ++ behind)))
    (u := before) (v := u ++ behind) rfl
  obtain ⟨f, hf, hfafter⟩ := reads_of_after hoafter
  obtain ⟨e, he, heafter⟩ := reads_of_after (hfafter.trans (List.append_nil _).symm)
  have hlead : a.Leads (.start (before ++ (u ++ behind))) o := by
    obtain ⟨d, hd, hread, -⟩ := leads_of_reaches hbefore
    exact leads_of_carried hd hread ho' (carried_of_previous ha (by rfl) _)
  have hbody : g'.Leads o f :=
    leads_of_carried hg hu hf (by rw [hplain]; exact nofun)
  have htail : b.Leads f e := by
    obtain ⟨d, hd, hread, -⟩ := leads_of_reaches hbehind
    exact leads_of_carried hd hread he (carried_of_after hb hfafter.symm _)
  have hoccurs : p.occurs (before ++ (u ++ behind)) = true :=
    (occurs_iff_of_whole ho hc _).mpr
      ⟨e, (leads_iff_of_cut? hcut).mpr ⟨o, hlead, f, hbody, htail⟩, heafter⟩
  obtain ⟨m, hm⟩ := Option.isSome_iff_exists.mp hoccurs
  obtain ⟨w, x, v, o', f', e', htext, hw, hx, hv, hlead', hbody', htail', hgroup⟩ :=
    find?_of_cut? ho hc hcut hi hm
  -- The group begins where `before` ends, and ends where `behind` begins.
  have hsame : o.position = o'.position := by
    obtain ⟨n, hn⟩ := leads_one_of_first? hfirst hbody
    obtain ⟨n', hn'⟩ := leads_one_of_first? hfirst hbody'
    have hnext : n = n' := eq_of_sharp hsharp ⟨o, hlead, hn⟩ ⟨o', hlead', hn'⟩
    obtain ⟨y, hy, -⟩ := leads_one_iff.mp hn
    obtain ⟨y', hy', -⟩ := leads_one_iff.mp hn'
    have hposition := hy.position_eq.symm.trans (hnext ▸ hy'.position_eq)
    simpa using hposition
  have hlength : before.length = w.length := by
    rw [ho'.position_eq, hw.position_eq] at hsame
    omega
  obtain ⟨-, hrest⟩ := List.append_inj htext hlength
  have hux : u = x :=
    (List.append_inj' hrest (length_of_width? hwidth htail' hv).symm).1
  exact ⟨m, hm, hux ▸ hgroup⟩

end Walkthrough.Pattern
