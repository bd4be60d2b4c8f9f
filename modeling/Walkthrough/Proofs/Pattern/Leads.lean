import Walkthrough.Pattern.Basic

namespace Walkthrough.Pattern

/-- `u` is what stands between the cursors. -/
def Reads : Cursor → List Char → Cursor → Prop
  | c, [], d => c = d
  | c, x :: u, d => ∃ e, c.next? = some (x, e) ∧ Reads e u d

theorem next?_eq_some {c d : Cursor} {x : Char} (h : c.next? = some (x, d)) :
    c.after = x :: d.after ∧ d.position = c.position + 1 ∧ d.previous = some x := by
  unfold Cursor.next? at h
  split at h
  · cases h
  · next y rest hc =>
    cases h
    exact ⟨hc, rfl, rfl⟩

theorem Reads.append {c d e : Cursor} {u v : List Char} (hu : Reads c u d) (hv : Reads d v e) :
    Reads c (u ++ v) e := by
  induction u generalizing c with
  | nil => exact hu ▸ hv
  | cons x u ih =>
    obtain ⟨f, hf, hr⟩ := hu
    exact ⟨f, hf, ih hr⟩

theorem Reads.after_eq {c d : Cursor} {u : List Char} (h : Reads c u d) :
    c.after = u ++ d.after := by
  induction u generalizing c with
  | nil => rw [show c = d from h, List.nil_append]
  | cons x u ih =>
    obtain ⟨e, he, hr⟩ := h
    rw [(next?_eq_some he).1, ih hr, List.cons_append]

theorem Reads.position_eq {c d : Cursor} {u : List Char} (h : Reads c u d) :
    d.position = c.position + u.length := by
  induction u generalizing c with
  | nil => rw [show c = d from h, List.length_nil, Nat.add_zero]
  | cons x u ih =>
    obtain ⟨e, he, hr⟩ := h
    rw [ih hr, (next?_eq_some he).2.1, List.length_cons]
    omega

theorem Reads.length_after {c d : Cursor} {u : List Char} (h : Reads c u d) :
    d.position + d.after.length = c.position + c.after.length := by
  rw [h.position_eq, h.after_eq, List.length_append]
  omega

theorem Reads.unique {c d e : Cursor} {u : List Char} (hd : Reads c u d) (he : Reads c u e) :
    d = e := by
  induction u generalizing c with
  | nil => exact hd.symm.trans he
  | cons x u ih =>
    obtain ⟨d', hd', hdr⟩ := hd
    obtain ⟨e', he', her⟩ := he
    cases hd'.symm.trans he'
    exact ih hdr her

theorem Reads.eq_of_length {c d e : Cursor} {u v : List Char} (hd : Reads c u d) (he : Reads c v e)
    (hl : u.length = v.length) : d = e := by
  have h := hd.after_eq.symm.trans he.after_eq
  obtain rfl := (List.append_inj h hl).1
  exact hd.unique he

/-- `d` is `c` or comes later in the same text. -/
def Before (c d : Cursor) : Prop :=
  ∃ u, Reads c u d

theorem Before.refl (c : Cursor) : Before c c :=
  ⟨[], rfl⟩

theorem Before.trans {c d e : Cursor} (h : Before c d) (h' : Before d e) : Before c e := by
  obtain ⟨u, hu⟩ := h
  obtain ⟨v, hv⟩ := h'
  exact ⟨u ++ v, hu.append hv⟩

theorem Before.position_le {c d : Cursor} (h : Before c d) : c.position ≤ d.position := by
  obtain ⟨u, hu⟩ := h
  rw [hu.position_eq]
  omega

theorem Before.eq_of_position {c d e : Cursor} (hd : Before c d) (he : Before c e)
    (h : d.position = e.position) : d = e := by
  obtain ⟨u, hu⟩ := hd
  obtain ⟨v, hv⟩ := he
  rw [hu.position_eq, hv.position_eq] at h
  exact hu.eq_of_length hv (by omega)

theorem reads_of_after {c : Cursor} {u v : List Char} (h : c.after = u ++ v) :
    ∃ d, Reads c u d ∧ d.after = v := by
  induction u generalizing c with
  | nil => exact ⟨c, rfl, h⟩
  | cons x u ih =>
    obtain ⟨d, hd, hv⟩ := ih (c := ⟨c.position + 1, some x, u ++ v⟩) rfl
    refine ⟨d, ⟨_, ?_, hd⟩, hv⟩
    unfold Cursor.next?
    rw [h, List.cons_append]

def Moves (r : Cursor → Cursor → Prop) : Nat → Cursor → Cursor → Prop
  | 0, c, d => c = d
  | n + 1, c, e => ∃ d, r c d ∧ Moves r n d e

/-- A run of the pattern from the first cursor may stop at the second. An upper bound of a
repetition below the lower one counts as the lower one. -/
def Leads : Pattern → Cursor → Cursor → Prop
  | empty, c, d => c = d
  | one s, c, d => ∃ x, c.next? = some (x, d) ∧ s.accepts x = true
  | anchor a, c, d => a.holds c = true ∧ c = d
  | seq p q, c, e => ∃ d, p.Leads c d ∧ q.Leads d e
  | either p q, c, d => p.Leads c d ∨ q.Leads c d
  | many least most _ p, c, d =>
    ∃ n, least ≤ n ∧ (∀ m ∈ most, n ≤ max least m) ∧ Moves p.Leads n c d
  | group _ p, c, d => p.Leads c d

def Forward (r : Cursor → Cursor → Prop) : Prop :=
  ∀ c d, r c d → Before c d

theorem Moves.append {r : Cursor → Cursor → Prop} {m n : Nat} {c d e : Cursor}
    (h : Moves r m c d) (h' : Moves r n d e) : Moves r (m + n) c e := by
  induction m generalizing c with
  | zero =>
    obtain rfl : c = d := h
    rwa [Nat.zero_add]
  | succ m ih =>
    obtain ⟨f, hf, hm⟩ := h
    rw [Nat.succ_add]
    exact ⟨f, hf, ih hm⟩

theorem Moves.split {r : Cursor → Cursor → Prop} {m n : Nat} {c e : Cursor}
    (h : Moves r (m + n) c e) : ∃ d, Moves r m c d ∧ Moves r n d e := by
  induction m generalizing c with
  | zero => exact ⟨c, rfl, by rwa [Nat.zero_add] at h⟩
  | succ m ih =>
    rw [Nat.succ_add] at h
    obtain ⟨f, hf, hm⟩ := h
    obtain ⟨d, hd, hn⟩ := ih hm
    exact ⟨d, ⟨f, hf, hd⟩, hn⟩

theorem Forward.moves {r : Cursor → Cursor → Prop} (hr : Forward r) {n : Nat} {c d : Cursor}
    (h : Moves r n c d) : Before c d := by
  induction n generalizing c with
  | zero => exact h ▸ Before.refl c
  | succ n ih =>
    obtain ⟨e, he, hn⟩ := h
    exact (hr c e he).trans (ih hn)

theorem leads_forward (p : Pattern) : Forward p.Leads := by
  induction p with
  | empty => rintro c d rfl; exact Before.refl c
  | one s => rintro c d ⟨x, hx, -⟩; exact ⟨[x], d, hx, rfl⟩
  | anchor a => rintro c d ⟨-, rfl⟩; exact Before.refl c
  | seq p q ihp ihq => rintro c e ⟨d, hp, hq⟩; exact (ihp c d hp).trans (ihq d e hq)
  | either p q ihp ihq => exact fun c d h => h.elim (ihp c d) (ihq c d)
  | many least most greedy p ih => rintro c d ⟨n, -, -, h⟩; exact ih.moves h
  | group i p ih => exact ih

end Walkthrough.Pattern
