import Walkthrough.Proofs.Pattern.Forms
import Walkthrough.Proofs.Pattern.Separation

namespace Walkthrough.Pattern

namespace CharSet

/-- No character is in both sets; blanks and digits count as known. -/
def disjoint (s t : CharSet) : Bool :=
  s.apart t || match s, t with
    | blank, digit | digit, blank => true
    | _, _ => false

theorem not_accepts_of_disjoint {s t : CharSet} (h : s.disjoint t = true) {x : Char}
    (hs : s.accepts x = true) : ¬ t.accepts x = true := by
  unfold disjoint at h
  obtain h | h := Bool.or_eq_true_iff.mp h
  · exact not_accepts_of_apart h hs
  · intro ht
    split at h
    · have hdigit := Text.not_digit_of_isBlank hs
      exact absurd (hdigit.symm.trans ht) (by decide)
    · have hdigit := Text.not_digit_of_isBlank ht
      exact absurd (hdigit.symm.trans hs) (by decide)
    · contradiction

end CharSet

namespace Track

variable {ι : Type} [DecidableEq ι]

/-- Within `n` characters, texts that tracks of different labels read have come apart or what is left
of the tracks has been there before. -/
def partedSince : List (List (Track ι)) → Nat → List (Track ι) → Bool
  | _, 0, ts => agree ts
  | seen, n + 1, ts =>
    agree ts || seen.any (fun us => ts.all us.contains) ||
      (agree (ts.filter (·.2.all skips)) && (followers CharSet.disjoint ts).all (partedSince (ts :: seen) n))

def parted (n : Nat) (ts : List (Track ι)) : Bool :=
  partedSince [] n ts

/-- Tracks that finish a text of at most `k` characters have one label. -/
def PartsUpTo (k : Nat) (ts : List (Track ι)) : Prop :=
  ∀ t ∈ ts, ∀ u ∈ ts, ∀ c : Cursor, c.after.length ≤ k → t.Finishes c → u.Finishes c → t.1 = u.1

omit [DecidableEq ι] in
theorem PartsUpTo.mono {j k : Nat} (h : j ≤ k) {ts : List (Track ι)} (hts : PartsUpTo k ts) :
    PartsUpTo j ts :=
  fun t ht u hu c hc => hts t ht u hu c (Nat.le_trans hc h)

theorem partsUpTo_of_partedSince (k : Nat) {n : Nat} {seen : List (List (Track ι))}
    {ts : List (Track ι)} (h : partedSince seen n ts = true)
    (hseen : ∀ us ∈ seen, PartsUpTo k us) : PartsUpTo k ts := by
  induction k using Nat.strongRecOn generalizing n seen ts with
  | ind k ih =>
    intro t ht u hu c hc hct hcu
    cases n with
    | zero => exact eq_of_agree h ht hu
    | succ n =>
      have hall := h
      simp only [partedSince, Bool.or_eq_true, Bool.and_eq_true, List.any_eq_true,
        List.all_eq_true, List.contains_iff_mem, or_assoc] at hall
      obtain hagree | ⟨us, hus, hsub⟩ | ⟨hend, hgo⟩ := hall
      · exact eq_of_agree hagree ht hu
      · exact hseen us hus t (hsub t ht) u (hsub u hu) c hc hct hcu
      obtain ⟨ht', hu'⟩ | ⟨us, hus, v, hv, w, hw, e, he, hvt, hwu, hve, hwe⟩ :=
        Finishes.follow CharSet.not_accepts_of_disjoint ht hu hct hcu
      · exact eq_of_agree hend ht' hu'
      · have hlt : e.after.length < k := Nat.lt_of_lt_of_le he hc
        -- For the shorter rest of the text this very table counts as read before.
        have hbefore : ∀ zs ∈ ts :: seen, PartsUpTo e.after.length zs := by
          have hseen' : ∀ zs ∈ seen, PartsUpTo e.after.length zs :=
            fun zs hzs => (hseen zs hzs).mono (Nat.le_of_lt hlt)
          exact List.forall_mem_cons.mpr ⟨ih _ hlt h hseen', hseen'⟩
        rw [← hvt, ← hwu]
        exact ih _ hlt (hgo us hus) hbefore v hv w hw e (Nat.le_refl _) hve hwe

theorem eq_of_parted {n : Nat} {ts : List (Track ι)} (h : parted n ts = true) {t u : Track ι}
    (ht : t ∈ ts) (hu : u ∈ ts) {c : Cursor} (hct : t.Finishes c) (hcu : u.Finishes c) :
    t.1 = u.1 :=
  partsUpTo_of_partedSince _ h (by simp) t ht u hu c (Nat.le_refl _) hct hcu

theorem not_covers_of_parted {n : Nat} {ts : List (Track ι)} (h : parted n ts = true) {i j : ι}
    (hij : i ≠ j) {p q : Pattern} (hp : (i, [p]) ∈ ts) (hq : (j, [q]) ∈ ts) {text : List Char}
    (hcovers : q.Covers text) : ¬ p.Covers text := by
  rintro ⟨d, hd, hdend⟩
  obtain ⟨e, he, heend⟩ := hcovers
  exact hij (eq_of_parted h hp hq ⟨d, leads_iff_through_singleton.mp hd, hdend⟩
    ⟨e, leads_iff_through_singleton.mp he, heend⟩)

end Track

end Walkthrough.Pattern
