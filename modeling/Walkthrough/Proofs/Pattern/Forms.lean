import Walkthrough.Proofs.Pattern.Runs
import Walkthrough.Proofs.Text.CaseFold

namespace Walkthrough.Pattern

theorem leads_one_iff {s : CharSet} {c d : Cursor} :
    (one s).Leads c d ↔ ∃ x, Reads c [x] d ∧ s.accepts x = true := by
  refine exists_congr fun x => and_congr_left fun _ => ⟨fun h => ⟨d, h, rfl⟩, ?_⟩
  intro h
  obtain ⟨e, he, rfl⟩ := h
  exact he

theorem moves_one_iff {s : CharSet} {n : Nat} {c d : Cursor} :
    Moves (one s).Leads n c d ↔
      ∃ u, Reads c u d ∧ u.length = n ∧ ∀ x ∈ u, s.accepts x = true := by
  induction n generalizing c with
  | zero =>
    constructor
    · intro h
      exact ⟨[], h, rfl, by simp⟩
    · intro h
      obtain ⟨u, hu, hl, -⟩ := h
      obtain rfl := List.eq_nil_of_length_eq_zero hl
      exact hu
  | succ n ih =>
    constructor
    · intro h
      obtain ⟨e, ⟨x, hx, ha⟩, hm⟩ := h
      obtain ⟨u, hu, hl, hall⟩ := ih.mp hm
      exact ⟨x :: u, ⟨e, hx, hu⟩, by simp [hl], by simpa [ha] using hall⟩
    · intro h
      obtain ⟨_ | ⟨x, u⟩, hu, hl, hall⟩ := h
      · cases hl
      · obtain ⟨e, hx, hr⟩ := hu
        simp only [List.mem_cons, forall_eq_or_imp] at hall
        exact ⟨e, ⟨x, hx, hall.1⟩, ih.mpr ⟨u, hr, by simpa using hl, hall.2⟩⟩

theorem leads_many_one_iff {least : Nat} {most : Option Nat} {greedy : Bool} {s : CharSet}
    {c d : Cursor} : (many least most greedy (one s)).Leads c d ↔
      ∃ u, Reads c u d ∧ least ≤ u.length ∧ (∀ m ∈ most, u.length ≤ max least m) ∧
        ∀ x ∈ u, s.accepts x = true := by
  rw [Leads]
  simp only [moves_one_iff]
  constructor
  · intro h
    obtain ⟨n, hn, hm, u, hu, rfl, hall⟩ := h
    exact ⟨u, hu, hn, hm, hall⟩
  · intro h
    obtain ⟨u, hu, hn, hm, hall⟩ := h
    exact ⟨_, hn, hm, u, hu, rfl, hall⟩

/-- The characters in any case, and then `p`. -/
def spelled (cs : List Char) (p : Pattern) : Pattern :=
  cs.foldr (fun c q => seq (one (.letter c)) q) p

theorem leads_spelled_iff {cs : List Char} {p : Pattern} {c d : Cursor} :
    (spelled cs p).Leads c d ↔
      ∃ u e, Reads c u e ∧ u.map Text.foldCase = cs.map Text.foldCase ∧ p.Leads e d := by
  induction cs generalizing c with
  | nil =>
    constructor
    · intro h
      exact ⟨[], c, rfl, rfl, h⟩
    · intro h
      obtain ⟨u, e, hu, hm, h⟩ := h
      obtain rfl := List.map_eq_nil_iff.mp hm
      exact (show c = e from hu) ▸ h
  | cons a cs ih =>
    constructor
    · intro h
      obtain ⟨f, ⟨x, hx, ha⟩, hr⟩ := h
      obtain ⟨u, e, hu, hm, h⟩ := ih.mp hr
      have hf : Text.foldCase a = Text.foldCase x := by simpa [CharSet.accepts] using ha
      exact ⟨x :: u, e, ⟨f, hx, hu⟩, by simp [hm, hf], h⟩
    · intro h
      obtain ⟨_ | ⟨x, u⟩, e, hu, hm, h⟩ := h
      · cases hm
      · obtain ⟨f, hx, hr⟩ := hu
        simp only [List.map_cons, List.cons.injEq] at hm
        exact ⟨f, ⟨x, hx, by simpa [CharSet.accepts] using hm.1.symm⟩,
          ih.mpr ⟨u, e, hr, hm.2, h⟩⟩

def branches : Pattern → List Pattern
  | either p q => p.branches ++ q.branches
  | p => [p]

theorem leads_iff_branches {p : Pattern} {c d : Cursor} :
    p.Leads c d ↔ ∃ b ∈ p.branches, b.Leads c d := by
  induction p with
  | either p q ihp ihq =>
    simp only [Leads, branches, List.mem_append, or_and_right, exists_or, ihp, ihq]
  | _ => simp [branches]

def opens : Pattern → Bool
  | anchor .textStart => true
  | seq p _ => p.opens
  | group _ p => p.opens
  | _ => false

def closes : Pattern → Bool
  | anchor .textEnd => true
  | seq _ q => q.closes
  | group _ p => p.closes
  | _ => false

theorem closes_spelled {p : Pattern} (h : p.closes = true) (cs : List Char) :
    (spelled cs p).closes = true := by
  induction cs with
  | nil => exact h
  | cons x cs ih => exact ih

theorem previous_of_opens {p : Pattern} (h : p.opens = true) {c d : Cursor} (hl : p.Leads c d) :
    c.previous = none := by
  induction p generalizing d with
  | anchor a =>
    cases a <;> try cases h
    simpa [Leads, Anchor.holds] using hl.1
  | seq p q ihp _ =>
    obtain ⟨e, hp, -⟩ := hl
    exact ihp h hp
  | group i p ih => exact ih h hl
  | _ => cases h

theorem after_of_closes {p : Pattern} (h : p.closes = true) {c d : Cursor} (hl : p.Leads c d) :
    d.after = [] := by
  induction p generalizing c with
  | anchor a =>
    cases a <;> try cases h
    exact hl.2 ▸ (by simpa [Leads, Anchor.holds] using hl.1)
  | seq p q _ ihq =>
    obtain ⟨e, -, hq⟩ := hl
    exact ihq h hq
  | group i p ih => exact ih h hl
  | _ => cases h

theorem previous_of_mem_tails {text : List Char} {c : Cursor}
    (h : c ∈ (Cursor.start text).tails) (hc : c.previous = none) : c = Cursor.start text := by
  have hlater : ∀ (cs : List Char) (k : Nat) (x : Char),
      ∀ d ∈ Cursor.tails.go k (some x) cs, d.previous ≠ none := by
    intro cs
    induction cs with
    | nil => simp [Cursor.tails.go]
    | cons y cs ih =>
      intro k x d hd
      obtain rfl | hd := List.mem_cons.mp hd
      · simp
      · exact ih _ y d hd
  cases text with
  | nil => simpa [Cursor.tails, Cursor.tails.go, Cursor.start] using h
  | cons y cs =>
    obtain rfl | h := List.mem_cons.mp h
    · rfl
    · exact absurd hc (hlater cs _ y c h)

theorem start_mem_tails (text : List Char) : Cursor.start text ∈ (Cursor.start text).tails := by
  cases text <;> simp [Cursor.tails, Cursor.tails.go, Cursor.start]

/-- The pattern reads the text from its start to its end. -/
def Covers (p : Pattern) (text : List Char) : Prop :=
  ∃ d, p.Leads (Cursor.start text) d ∧ d.after = []

theorem occurs_iff_of_whole {p : Pattern} (ho : p.opens = true) (hc : p.closes = true)
    (text : List Char) :
    p.occurs text = true ↔ ∃ d, p.Leads (Cursor.start text) d ∧ d.after = [] := by
  rw [occurs_iff]
  constructor
  · intro h
    obtain ⟨c, hm, d, hd⟩ := h
    obtain rfl := previous_of_mem_tails hm (previous_of_opens ho hd)
    exact ⟨d, hd, after_of_closes hc hd⟩
  · intro h
    obtain ⟨d, hd, -⟩ := h
    exact ⟨_, start_mem_tails text, d, hd⟩

end Walkthrough.Pattern
