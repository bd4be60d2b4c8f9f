import Walkthrough.Proofs.Pattern.Forms
import Walkthrough.Proofs.Pattern.Separation

namespace Walkthrough

/-- `phase`, a number, and exactly one colon or dash. -/
def IsMarkedPhase (line : String) : Prop :=
  ∃ word digits mark, line.toList = word ++ digits ++ [mark] ∧
    word.map Text.foldCase = "phase ".toList ∧
    digits ≠ [] ∧ (∀ x ∈ digits, Text.isDecimalDigit x = true) ∧ (mark = ':' ∨ mark = '–')

namespace Pattern

namespace CharSet

/-- The members of any of the sets, and their case variants. -/
def anyOf (sets : List CharSet) : CharSet :=
  .anyCase (sets.foldl .union .none)

theorem accepts_anyOf {sets : List CharSet}
    (h : ∀ s ∈ sets, ∀ x, s.accepts x = true → Text.uncased x = true) (x : Char) :
    (anyOf sets).accepts x = true ↔ ∃ s ∈ sets, s.accepts x = true := by
  have hfold : ∀ (sets : List CharSet) (t : CharSet) (y : Char),
      (sets.foldl .union t).accepts y = true ↔
        t.accepts y = true ∨ ∃ s ∈ sets, s.accepts y = true := by
    intro sets
    induction sets with
    | nil => simp
    | cons s sets ih =>
      intro t y
      simp only [List.foldl_cons, ih, accepts, Bool.or_eq_true, List.mem_cons, exists_eq_or_imp,
        or_assoc]
  simp only [anyOf, accepts, List.any_eq_true, hfold, Bool.false_eq_true, false_or]
  constructor
  · intro h
    obtain ⟨y, hy, s, hs, ha⟩ := h
    obtain rfl := Text.eq_of_mem_caseVariants (h s hs y ha) hy
    exact ⟨s, hs, ha⟩
  · intro h
    obtain ⟨s, hs, ha⟩ := h
    exact ⟨x, Text.mem_caseVariants_self x, s, hs, ha⟩

end CharSet

def marks : CharSet :=
  .anyOf [.single ':', .single '–']

def separators : CharSet :=
  .anyOf [.blank, .single '–', .single ':', .single '-']

theorem accepts_marks (x : Char) : marks.accepts x = true ↔ x = ':' ∨ x = '–' := by
  have hu : Text.uncased ':' = true ∧ Text.uncased '–' = true := by decide
  rw [marks, CharSet.accepts_anyOf]
  · simp [CharSet.accepts, @eq_comm _ x]
  · simp [CharSet.accepts, hu]

theorem accepts_separators (x : Char) :
    separators.accepts x = true ↔ Text.isBlank x = true ∨ x = '–' ∨ x = ':' ∨ x = '-' := by
  have hu : Text.uncased '–' = true ∧ Text.uncased ':' = true ∧ Text.uncased '-' = true := by
    decide
  rw [separators, CharSet.accepts_anyOf]
  · simp [CharSet.accepts, @eq_comm _ x]
  · simpa [CharSet.accepts, hu] using fun x hx => Text.uncased_of_isBlank hx

theorem not_digit_of_separator {x : Char} (h : separators.accepts x = true) :
    Text.isDecimalDigit x = false := by
  obtain h | rfl | rfl | rfl := (accepts_separators x).mp h
  · exact Text.not_digit_of_isBlank h
  all_goals decide

def titleEnd : Pattern :=
  .seq (.many 0 (some 1) true (.one marks)) (.anchor .textEnd)

def phaseNumber : Pattern :=
  .many 1 none true (.one .digit)

def phaseTitle : Pattern :=
  spelled "phase ".toList phaseNumber

def headingEnd : Pattern :=
  .seq (.one separators)
    (.seq (.many 0 none true (.one (.complement (.single '\n')))) (.anchor .textEnd))

def phaseHeading : Pattern :=
  .seq (.anchor .textStart) (spelled "phase ".toList (.seq phaseNumber headingEnd))

def titles? : Pattern → Option (List Pattern)
  | .seq (.anchor .textStart) (.seq (.group _ p) rest) =>
    if rest = titleEnd then some p.branches else none
  | _ => none

theorem leads_iff_titles {p : Pattern} {ts : List Pattern} (h : p.titles? = some ts)
    (text : List Char) (d : Cursor) : p.Leads (.start text) d ↔
      ∃ t ∈ ts, (seq t titleEnd).Leads (.start text) d := by
  unfold titles? at h
  split at h
  · split at h
    · next i p rest he =>
      cases h
      subst he
      constructor
      · intro h
        obtain ⟨-, ⟨-, rfl⟩, e, hp, hr⟩ := h
        obtain ⟨t, ht, hl⟩ := (leads_iff_branches (p := p)).mp hp
        exact ⟨t, ht, e, hl, hr⟩
      · intro h
        obtain ⟨t, ht, e, hl, hr⟩ := h
        exact ⟨_, ⟨rfl, rfl⟩, e, (leads_iff_branches (p := p)).mpr ⟨t, ht, hl⟩, hr⟩
    · cases h
  · cases h

theorem phaseWord_iff {u : List Char} :
    u.map Text.foldCase = "phase ".toList.map Text.foldCase ↔
      u.map Text.foldCase = "phase ".toList := by
  rw [show "phase ".toList.map Text.foldCase = "phase ".toList by decide]

theorem leads_phaseNumber_iff {c d : Cursor} : phaseNumber.Leads c d ↔
    ∃ u, Reads c u d ∧ u ≠ [] ∧ ∀ x ∈ u, Text.isDecimalDigit x = true := by
  simp [phaseNumber, leads_many_one_iff, CharSet.accepts, Nat.succ_le_iff, List.length_pos_iff]

theorem phaseHeading_reads {text : List Char} {d : Cursor}
    (h : phaseHeading.Leads (.start text) d) :
    ∃ word digits x rest, text = word ++ (digits ++ x :: rest) ∧
      word.map Text.foldCase = "phase ".toList ∧ digits ≠ [] ∧
      (∀ y ∈ digits, Text.isDecimalDigit y = true) ∧ separators.accepts x = true := by
  obtain ⟨-, ⟨-, rfl⟩, hs⟩ := h
  obtain ⟨word, e, hw, hword, f, hn, g, hx, -⟩ := leads_spelled_iff.mp hs
  obtain ⟨digits, hd, hne, hall⟩ := leads_phaseNumber_iff.mp hn
  obtain ⟨x, hx, ha⟩ := leads_one_iff.mp hx
  have htext : text = word ++ e.after := hw.after_eq
  have hrest : f.after = x :: g.after := hx.after_eq
  exact ⟨word, digits, x, g.after, by rw [htext, hd.after_eq, hrest], phaseWord_iff.mp hword,
    hne, hall, ha⟩

theorem phaseTitle_reads {text : List Char} {d : Cursor}
    (h : (seq phaseTitle titleEnd).Leads (.start text) d) :
    ∃ word digits m, text = word ++ (digits ++ m) ∧ word.map Text.foldCase = "phase ".toList ∧
      (∀ y ∈ digits, Text.isDecimalDigit y = true) ∧ m.length ≤ 1 ∧
      ∀ y ∈ m, marks.accepts y = true := by
  obtain ⟨f, ht, g, hm, ha, rfl⟩ := h
  obtain ⟨word, e, hw, hword, hn⟩ := leads_spelled_iff.mp ht
  obtain ⟨digits, hd, -, hall⟩ := leads_phaseNumber_iff.mp hn
  obtain ⟨m, hm, -, hlen, hmall⟩ := leads_many_one_iff.mp hm
  have htext : text = word ++ e.after := hw.after_eq
  have hend : g.after = [] := by simpa [Anchor.holds] using ha
  exact ⟨word, digits, m, by rw [htext, hd.after_eq, hm.after_eq, hend, List.append_nil],
    phaseWord_iff.mp hword, hall, by simpa using hlen, hmall⟩

/-- A line that is a title of a section and a heading of a phase has just a mark after the number. -/
theorem isMarkedPhase_of_leads {line : String} {d e : Cursor}
    (hh : phaseHeading.Leads (.start line.toList) d)
    (ht : (seq phaseTitle titleEnd).Leads (.start line.toList) e) : IsMarkedPhase line := by
  obtain ⟨w, ds, x, rest, htext, hw, hne, hall, hx⟩ := phaseHeading_reads hh
  obtain ⟨w', ds', m, htext', hw', hall', hlen, hmall⟩ := phaseTitle_reads ht
  have hl : w.length = w'.length := by
    have := congrArg List.length (hw.trans hw'.symm)
    simpa using this
  obtain ⟨rfl, htail⟩ := List.append_inj (htext.symm.trans htext') hl
  -- The separator is no digit, so the digits of both readings end before it.
  have hm : m = [x] ∧ rest = [] := by
    obtain ⟨a, rfl, ha⟩ | ⟨a, rfl, ha⟩ := List.append_eq_append_iff.mp htail
    · cases a with
      | nil =>
        obtain rfl : m = x :: rest := ha.symm
        simpa using hlen
      | cons y a =>
        obtain ⟨rfl, -⟩ := List.cons.inj ha
        have hy := hall' x (by simp)
        rw [not_digit_of_separator hx] at hy
        cases hy
    · subst ha
      simp only [List.length_append, List.length_cons] at hlen
      obtain rfl := List.eq_nil_of_length_eq_zero (show a.length = 0 by omega)
      obtain rfl := List.eq_nil_of_length_eq_zero (show rest.length = 0 by omega)
      exact ⟨rfl, rfl⟩
  obtain ⟨rfl, rfl⟩ := hm
  exact ⟨w, ds, x, by rw [htext, List.append_assoc], hw, hne, hall,
    (accepts_marks x).mp (hmall x (by simp))⟩

theorem leads_of_isMarkedPhase {line : String} (h : IsMarkedPhase line) :
    (∃ d, phaseHeading.Leads (.start line.toList) d ∧ d.after = []) ∧
      ∃ d, (seq phaseTitle titleEnd).Leads (.start line.toList) d ∧ d.after = [] := by
  obtain ⟨word, digits, mark, htext, hword, hne, hall, hmark⟩ := h
  obtain ⟨e, hw, he⟩ := reads_of_after (c := .start line.toList) (u := word)
    (v := digits ++ [mark]) (by rw [← List.append_assoc, ← htext]; rfl)
  obtain ⟨f, hd, hf⟩ := reads_of_after he
  obtain ⟨g, hg, hend⟩ := reads_of_after (u := [mark]) (v := []) hf
  have hn : phaseNumber.Leads e f := leads_phaseNumber_iff.mpr ⟨digits, hd, hne, hall⟩
  have hword := phaseWord_iff.mpr hword
  have hstop : Anchor.textEnd.holds g = true := by simp [Anchor.holds, hend]
  constructor
  · refine ⟨g, ⟨_, ⟨rfl, rfl⟩, leads_spelled_iff.mpr ⟨word, e, hw, hword, f, hn, g, ?_, g, ?_,
      hstop, rfl⟩⟩, hend⟩
    · refine leads_one_iff.mpr ⟨mark, hg, (accepts_separators mark).mpr ?_⟩
      obtain rfl | rfl := hmark <;> simp
    · exact leads_many_one_iff.mpr ⟨[], rfl, by simp, by simp, by simp⟩
  · refine ⟨g, ⟨f, leads_spelled_iff.mpr ⟨word, e, hw, hword, hn⟩, g, ?_, hstop, rfl⟩, hend⟩
    refine leads_many_one_iff.mpr ⟨[mark], hg, by simp, by simp, ?_⟩
    simpa [accepts_marks] using hmark

/-- A pattern for headings of sections has the phase among its titles, and no other title is a
heading of a phase. -/
def isMarker (p : Pattern) : Bool :=
  p.titles?.any fun ts => ts.contains phaseTitle &&
    Track.separated 40 ((true, [phaseHeading]) ::
      (ts.filter (· != phaseTitle)).map fun t => (false, [seq t titleEnd]))

theorem leads_isMarker_iff {p : Pattern} (hp : p.isMarker = true) {line : String}
    (hh : ∃ d, phaseHeading.Leads (.start line.toList) d ∧ d.after = []) :
    (∃ d, p.Leads (.start line.toList) d ∧ d.after = []) ↔ IsMarkedPhase line := by
  simp only [isMarker, Option.any_eq_true, Bool.and_eq_true, List.contains_eq_mem,
    decide_eq_true_eq] at hp
  obtain ⟨ts, hts, hmem, hsep⟩ := hp
  constructor
  · intro h
    obtain ⟨d, hd, hend⟩ := h
    obtain ⟨t, ht, hl⟩ := (leads_iff_titles hts _ d).mp hd
    obtain ⟨e, he, hee⟩ := hh
    by_cases htp : t = phaseTitle
    · exact isMarkedPhase_of_leads he (htp ▸ hl)
    · have := Track.eq_of_separated hsep (t := (true, [phaseHeading]))
        (u := (false, [seq t titleEnd])) (by simp) (by simp [ht, htp])
        ⟨e, leads_iff_through_singleton.mp he, hee⟩ ⟨d, leads_iff_through_singleton.mp hl, hend⟩
      cases this
  · intro h
    obtain ⟨d, hd, hend⟩ := (leads_of_isMarkedPhase h).2
    exact ⟨d, (leads_iff_titles hts _ d).mpr ⟨_, hmem, hd⟩, hend⟩

end Pattern

end Walkthrough
