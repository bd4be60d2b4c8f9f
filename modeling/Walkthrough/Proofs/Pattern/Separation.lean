import Walkthrough.Proofs.Pattern.Runs
import Walkthrough.Proofs.Text.CaseFold

namespace Walkthrough.Pattern

namespace CharSet

/-- The folded characters of a set that has but a few. -/
def folds? : CharSet → Option (List Char)
  | single c | letter c => some [Text.foldCase c]
  | none => some []
  | union s t => s.folds?.bind fun l => t.folds?.map (l ++ ·)
  | anyCase s => s.folds?.filter (·.all Text.uncased)
  | _ => Option.none

def misses (l : List Char) : CharSet → Bool
  | digit => l.all (!Text.isDecimalDigit ·)
  | blank => l.all (!Text.isBlank ·)
  | s => s.folds?.any fun m => l.all (!m.contains ·)

def apart (s t : CharSet) : Bool :=
  s.folds?.any t.misses || t.folds?.any s.misses

theorem foldCase_mem_folds {s : CharSet} {l : List Char} (h : s.folds? = some l) {x : Char}
    (hx : s.accepts x = true) : Text.foldCase x ∈ l := by
  induction s generalizing l x with
  | single c =>
    obtain rfl : c = x := beq_iff_eq.mp hx
    cases h
    exact List.mem_singleton.mpr rfl
  | letter c =>
    have he : Text.foldCase c = Text.foldCase x := beq_iff_eq.mp hx
    cases h
    exact List.mem_singleton.mpr he.symm
  | none => cases hx
  | union s t ihs iht =>
    have h : (s.folds?.bind fun m => t.folds?.map (m ++ ·)) = some l := h
    simp only [Option.bind_eq_some_iff, Option.map_eq_some_iff] at h
    obtain ⟨m, hm, n, hn, rfl⟩ := h
    obtain hx | hx := Bool.or_eq_true_iff.mp hx
    exacts [List.mem_append_left _ (ihs hm hx), List.mem_append_right _ (iht hn hx)]
  | anyCase s ih =>
    have h : s.folds?.filter (·.all Text.uncased) = some l := h
    simp only [Option.filter_eq_some_iff, List.all_eq_true] at h
    simp only [accepts, List.any_eq_true] at hx
    obtain ⟨y, hy, hs⟩ := hx
    -- A character without case has no variant but itself.
    have hu := h.2 _ (ih h.1 hs)
    have hf : y = Text.foldCase y := Text.eq_of_foldCase_uncased hu rfl
    obtain rfl := Text.eq_of_mem_caseVariants (hf ▸ hu) hy
    exact ih h.1 hs
  | _ => cases h

theorem not_mem_of_misses {s : CharSet} {l : List Char} (h : s.misses l = true) {x : Char}
    (hx : s.accepts x = true) : Text.foldCase x ∉ l := by
  intro hl
  have hfolds : s.folds?.any (fun m => l.all (!m.contains ·)) = true → False := by
    simp only [Option.any_eq_true, List.all_eq_true, Bool.not_eq_true', List.contains_eq_mem,
      decide_eq_false_iff_not]
    intro h
    obtain ⟨m, hm, hno⟩ := h
    exact hno _ hl (foldCase_mem_folds hm hx)
  unfold misses at h
  split at h
  · rw [Text.foldCase_of_isDecimalDigit hx] at hl
    simpa [show Text.isDecimalDigit x = true from hx] using List.all_eq_true.mp h x hl
  · rw [Text.foldCase_of_uncased (Text.uncased_of_isBlank hx)] at hl
    simpa [show Text.isBlank x = true from hx] using List.all_eq_true.mp h x hl
  · exact hfolds h

theorem not_accepts_of_apart {s t : CharSet} (h : s.apart t = true) {x : Char}
    (hs : s.accepts x = true) : ¬ t.accepts x = true := by
  intro ht
  simp only [apart, Bool.or_eq_true, Option.any_eq_true] at h
  obtain ⟨l, hl, hm⟩ | ⟨l, hl, hm⟩ := h
  exacts [not_mem_of_misses hm ht (foldCase_mem_folds hl hs),
    not_mem_of_misses hm hs (foldCase_mem_folds hl ht)]

end CharSet

/-- The patterns lead on one after the other. -/
def Through : List Pattern → Cursor → Cursor → Prop
  | [], c, d => c = d
  | p :: ps, c, e => ∃ d, p.Leads c d ∧ Through ps d e

theorem Through.append {ps qs : List Pattern} {c d e : Cursor} (hp : Through ps c d)
    (hq : Through qs d e) : Through (ps ++ qs) c e := by
  induction ps generalizing c with
  | nil => exact (show c = d from hp) ▸ hq
  | cons p ps ih =>
    obtain ⟨f, hf, hr⟩ := hp
    exact ⟨f, hf, ih hr⟩

def skips : Pattern → Bool
  | empty | anchor _ => true
  | one _ => false
  | seq p q => p.skips && q.skips
  | either p q => p.skips || q.skips
  | many least _ _ p => least == 0 || p.skips
  | group _ p => p.skips

/-- The sets of first characters, each with what is left to read after it. -/
def heads : Pattern → List (CharSet × List Pattern)
  | empty | anchor _ => []
  | one s => [(s, [])]
  | seq p q => (p.heads.map fun h => (h.1, h.2 ++ [q])) ++ if p.skips then q.heads else []
  | either p q => p.heads ++ q.heads
  | many _ _ greedy p => p.heads.map fun h => (h.1, h.2 ++ [many 0 none greedy p])
  | group _ p => p.heads

/-- One of the ways to go on reads the next character. -/
def Enters (ways : List (CharSet × List Pattern)) (c d : Cursor) : Prop :=
  ∃ x e, c.next? = some (x, e) ∧ ∃ w ∈ ways, w.1.accepts x = true ∧ Through w.2 e d

theorem Enters.mono {ways ways' : List (CharSet × List Pattern)} {c d : Cursor}
    (h : Enters ways c d) (hw : ∀ w ∈ ways, w ∈ ways') : Enters ways' c d := by
  obtain ⟨x, e, hx, w, hm, ha, ht⟩ := h
  exact ⟨x, e, hx, w, hw w hm, ha, ht⟩

theorem Enters.append {ways : List (CharSet × List Pattern)} {ps : List Pattern} {c d e : Cursor}
    (h : Enters ways c d) (hp : Through ps d e) :
    Enters (ways.map fun w => (w.1, w.2 ++ ps)) c e := by
  obtain ⟨x, f, hx, w, hm, ha, ht⟩ := h
  exact ⟨x, f, hx, _, List.mem_map_of_mem hm, ha, ht.append hp⟩

theorem leads_iff_through_singleton {p : Pattern} {c d : Cursor} :
    p.Leads c d ↔ Through [p] c d := by
  simp [Through]

theorem skips_or_enters {p : Pattern} {c d : Cursor} (h : p.Leads c d) :
    (c = d ∧ p.skips = true) ∨ Enters p.heads c d := by
  induction p generalizing c d with
  | empty => exact .inl ⟨h, rfl⟩
  | one s =>
    obtain ⟨x, hx, ha⟩ := h
    exact .inr ⟨x, d, hx, _, List.mem_singleton.mpr rfl, ha, rfl⟩
  | anchor a => exact .inl ⟨h.2, rfl⟩
  | seq p q ihp ihq =>
    obtain ⟨e, hp, hq⟩ := h
    obtain ⟨rfl, hsp⟩ | hp := ihp hp
    · obtain ⟨rfl, hsq⟩ | hq := ihq hq
      · exact .inl ⟨rfl, by simp [skips, hsp, hsq]⟩
      · exact .inr (hq.mono fun w hw => by simp [heads, hsp, hw])
    · exact .inr ((hp.append (leads_iff_through_singleton.mp hq)).mono
        fun w hw => List.mem_append_left _ hw)
  | either p q ihp ihq =>
    obtain h | h := h
    · exact (ihp h).imp (fun hs => ⟨hs.1, by simp [skips, hs.2]⟩)
        (·.mono fun w hw => List.mem_append_left _ hw)
    · exact (ihq h).imp (fun hs => ⟨hs.1, by simp [skips, hs.2]⟩)
        (·.mono fun w hw => List.mem_append_right _ hw)
  | many least most greedy p ih =>
    obtain ⟨n, hn, -, hm⟩ := h
    -- The first round that reads anything is followed by some rounds, however many.
    have hrounds : (c = d ∧ (n = 0 ∨ p.skips = true)) ∨ Enters (many least most greedy p).heads c d := by
      clear hn
      induction n generalizing c with
      | zero => exact .inl ⟨hm, .inl rfl⟩
      | succ n ihn =>
        obtain ⟨e, he, hr⟩ := hm
        obtain ⟨rfl, hs⟩ | he := ih he
        · exact (ihn hr).imp_left fun hc => ⟨hc.1, .inr hs⟩
        · exact .inr (he.append (leads_iff_through_singleton.mp ⟨n, by simp, by simp, hr⟩))
    refine hrounds.imp_left fun hc => ⟨hc.1, ?_⟩
    simp only [skips, Bool.or_eq_true, beq_iff_eq]
    exact hc.2.imp_left (by omega)
  | group i p ih => exact ih h

/-- The ways to go on from a list of patterns. -/
def ways : List Pattern → List (CharSet × List Pattern)
  | [] => []
  | p :: ps => (p.heads.map fun h => (h.1, h.2 ++ ps)) ++ if p.skips then ways ps else []

theorem through_skips_or_enters {ps : List Pattern} {c d : Cursor} (h : Through ps c d) :
    (c = d ∧ ps.all skips = true) ∨ Enters (ways ps) c d := by
  induction ps generalizing c with
  | nil => exact .inl ⟨h, rfl⟩
  | cons p ps ih =>
    obtain ⟨e, hp, hr⟩ := h
    obtain ⟨rfl, hs⟩ | hp := skips_or_enters hp
    · exact (ih hr).imp (fun hc => ⟨hc.1, by simp [hs, hc.2]⟩)
        (·.mono fun w hw => by simp [ways, hs, hw])
    · exact .inr ((hp.append hr).mono fun w hw => List.mem_append_left _ hw)

/-- What is left of a pattern that stands under a label. -/
abbrev Track (ι : Type) := ι × List Pattern

namespace Track

variable {ι : Type}

def Finishes (t : Track ι) (c : Cursor) : Prop :=
  ∃ d, Through t.2 c d ∧ d.after = []

def steps (t : Track ι) : List (CharSet × Track ι) :=
  (ways t.2).map fun w => (w.1, t.1, w.2)

theorem Finishes.step {t : Track ι} {c : Cursor} (h : t.Finishes c) :
    (c.after = [] ∧ t.2.all skips = true) ∨
      ∃ x e, c.next? = some (x, e) ∧ ∃ w ∈ t.steps, w.1.accepts x = true ∧ w.2.1 = t.1 ∧
        w.2.Finishes e := by
  obtain ⟨d, hd, he⟩ := h
  obtain ⟨rfl, hs⟩ | ⟨x, e, hx, w, hw, ha, ht⟩ := through_skips_or_enters hd
  · exact .inl ⟨he, hs⟩
  · exact .inr ⟨x, e, hx, (w.1, t.1, w.2), List.mem_map_of_mem hw, ha, rfl, d, ht, he⟩

def agree [DecidableEq ι] : List (Track ι) → Bool
  | [] => true
  | t :: ts => ts.all (·.1 == t.1)

theorem eq_of_agree [DecidableEq ι] {ts : List (Track ι)} (h : agree ts = true) {t u : Track ι} (ht : t ∈ ts)
    (hu : u ∈ ts) : t.1 = u.1 := by
  cases ts with
  | nil => cases ht
  | cons v ts =>
    simp only [agree, List.all_eq_true, beq_iff_eq] at h
    have hv : ∀ w ∈ v :: ts, w.1 = v.1 := fun w hw =>
      (List.mem_cons.mp hw).elim (fun he => he ▸ rfl) (h w)
    exact (hv t ht).trans (hv u hu).symm

/-- What is left of a table after one more character, one table for each set that a track goes on
with: the tracks whose sets are not told to be apart from that set. -/
def followers (apart : CharSet → CharSet → Bool) (ts : List (Track ι)) : List (List (Track ι)) :=
  ((ts.flatMap steps).map (·.1)).eraseDups.map fun s =>
    ((ts.flatMap steps).filter (!apart s ·.1)).map (·.2)

/-- Two tracks that finish the same text are at its end, or have followers that finish the rest. -/
theorem Finishes.follow {apart : CharSet → CharSet → Bool}
    (hapart : ∀ {s t : CharSet}, apart s t = true →
      ∀ {x : Char}, s.accepts x = true → ¬ t.accepts x = true)
    {ts : List (Track ι)} {t u : Track ι} (ht : t ∈ ts) (hu : u ∈ ts) {c : Cursor}
    (hct : t.Finishes c) (hcu : u.Finishes c) :
    (t ∈ ts.filter (·.2.all skips) ∧ u ∈ ts.filter (·.2.all skips)) ∨
      ∃ us ∈ followers apart ts, ∃ v ∈ us, ∃ w ∈ us, ∃ e : Cursor,
        e.after.length < c.after.length ∧ v.1 = t.1 ∧ w.1 = u.1 ∧ v.Finishes e ∧ w.Finishes e := by
  have hmore {x : Char} {e : Cursor} (hx : c.next? = some (x, e)) : c.after ≠ [] := by
    rw [(next?_eq_some hx).1]
    nofun
  obtain ⟨hc, hst⟩ | ⟨x, e, hx, v, hv, hav, hvt, hve⟩ := hct.step
  · obtain ⟨-, hsu⟩ | ⟨x, e, hx, -⟩ := hcu.step
    · exact .inl ⟨List.mem_filter.mpr ⟨ht, hst⟩, List.mem_filter.mpr ⟨hu, hsu⟩⟩
    · exact absurd hc (hmore hx)
  · obtain ⟨hc, -⟩ | ⟨y, f, hy, w, hw, haw, hwu, hwe⟩ := hcu.step
    · exact absurd hc (hmore hx)
    cases hx.symm.trans hy
    have hvs : v ∈ ts.flatMap steps := List.mem_flatMap.mpr ⟨t, ht, hv⟩
    have hws : w ∈ ts.flatMap steps := List.mem_flatMap.mpr ⟨u, hu, hw⟩
    -- Both tracks are among those that go on with a character of the set of the first.
    have hmem : ∀ z ∈ ts.flatMap steps, z.1.accepts x = true →
        z.2 ∈ ((ts.flatMap steps).filter (!apart v.1 ·.1)).map (·.2) := by
      intro z hz haz
      refine List.mem_map_of_mem (List.mem_filter.mpr ⟨hz, ?_⟩)
      rw [Bool.not_eq_true']
      exact Bool.eq_false_iff.mpr fun hap => hapart hap hav haz
    have hshort : e.after.length < c.after.length := by
      rw [(next?_eq_some hx).1, List.length_cons]
      exact Nat.lt_succ_self _
    exact .inr ⟨_, List.mem_map_of_mem (List.mem_eraseDups.mpr (List.mem_map_of_mem hvs)), v.2,
      hmem v hvs hav, w.2, hmem w hws haw, e, hshort, hvt, hwu, hve, hwe⟩

/-- Within `n` characters, texts that tracks of different labels read have come apart. -/
def separated [DecidableEq ι] : Nat → List (Track ι) → Bool
  | 0, ts => agree ts
  | n + 1, ts =>
    agree ts ||
      (agree (ts.filter (·.2.all skips)) &&
        ((ts.flatMap steps).map (·.1)).eraseDups.all fun s =>
          separated n (((ts.flatMap steps).filter (!s.apart ·.1)).map (·.2)))

theorem eq_of_separated [DecidableEq ι] {n : Nat} {ts : List (Track ι)} (h : separated n ts = true) {t u : Track ι}
    (ht : t ∈ ts) (hu : u ∈ ts) {c : Cursor} (hct : t.Finishes c) (hcu : u.Finishes c) :
    t.1 = u.1 := by
  induction n generalizing ts t u c with
  | zero => exact eq_of_agree h ht hu
  | succ n ih =>
    simp only [separated, Bool.or_eq_true, Bool.and_eq_true, List.all_eq_true] at h
    obtain h | ⟨hend, hgo⟩ := h
    · exact eq_of_agree h ht hu
    obtain ⟨ht', hu'⟩ | ⟨us, hus, v, hv, w, hw, e, -, hvt, hwu, hve, hwe⟩ :=
      Finishes.follow CharSet.not_accepts_of_apart ht hu hct hcu
    · exact eq_of_agree hend ht' hu'
    · obtain ⟨s, hs, rfl⟩ := List.mem_map.mp hus
      rw [← hvt, ← hwu]
      exact ih (hgo s hs) hv hw hve hwe

end Track

end Walkthrough.Pattern
