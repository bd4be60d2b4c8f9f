import Walkthrough.Coverage
import Walkthrough.Proofs.StepFile.Reload
import Walkthrough.Proofs.Text.Search

namespace Walkthrough

def Text.printedLines (text : String) : List String :=
  (splitAt '\n' text.toList).dropLast.map String.ofList

theorem Text.printedLines_join {ls : List String} (h : ∀ l ∈ ls, '\n' ∉ l.toList) :
    printedLines (String.join (ls.map (· ++ "\n"))) = ls := by
  have hchars : (String.join (ls.map (· ++ "\n"))).toList =
      (ls.map String.toList).flatMap (· ++ ['\n']) := by
    rw [String.toList_join, List.flatMap_map, List.flatMap_map]
    exact List.flatMap_congr fun l _ => String.toList_append
  have hparts : ∀ l ∈ ls.map String.toList, '\n' ∉ l := by
    intro l hl
    obtain ⟨line, hline, rfl⟩ := List.mem_map.mp hl
    exact h line hline
  unfold printedLines
  rw [hchars, splitAt_flatMap hparts, List.dropLast_concat, List.map_map]
  simp

namespace StepFile

theorem dropWhile_lineChars (s : Step) : (lineChars s).dropWhile (· == ' ') = entryChars s := by
  obtain ⟨x, hx, hdigit⟩ := first_entryChars s
  obtain ⟨rest, hrest⟩ := List.head?_eq_some_iff.mp hx
  have hspaces : ∀ y ∈ List.replicate (3 - (toString s.number).length) ' ', (y == ' ') = true := by
    intro y hy
    rw [List.eq_of_mem_replicate hy]
    rfl
  have hblank : ¬ (x == ' ') = true := by
    rw [beq_iff_eq]
    rintro rfl
    exact absurd hdigit (by decide)
  unfold lineChars
  rw [List.dropWhile_append_of_pos hspaces, hrest]
  exact List.dropWhile_cons_of_neg hblank

theorem lineChars_inj {s t : Step} (h : lineChars s = lineChars t) :
    s.number = t.number ∧ s.text = t.text := by
  have hentry : entryChars s = entryChars t := by
    rw [← dropWhile_lineChars, h, dropWhile_lineChars]
  have htake (s : Step) : (entryChars s).takeWhile Char.isDigit = Nat.toDigits 10 s.number := by
    unfold entryChars
    rw [List.takeWhile_append_of_pos isDigit_of_mem_toDigits,
      List.takeWhile_cons_of_neg (by decide), List.append_nil]
  have hdrop (s : Step) :
      (entryChars s).dropWhile Char.isDigit = '.' :: ' ' :: s.text.toList := by
    unfold entryChars
    rw [List.dropWhile_append_of_pos isDigit_of_mem_toDigits,
      List.dropWhile_cons_of_neg (by decide)]
  constructor
  · have hdigits : Nat.toDigits 10 s.number = Nat.toDigits 10 t.number := by
      rw [← htake, hentry, htake]
    rw [← Nat.ofDigitChars_toDigits (show 1 < 10 by decide) (Nat.le_refl 10) (n := s.number),
      hdigits, Nat.ofDigitChars_toDigits (by decide) (Nat.le_refl 10)]
  · have htext : '.' :: ' ' :: s.text.toList = '.' :: ' ' :: t.text.toList := by
      rw [← hdrop, hentry, hdrop]
    simpa [String.toList_inj] using htext

end StepFile

open StepFile

namespace CoverageEntry

def mark (known : Bool) : Char :=
  if known then '✅' else '❌'

theorem mark_inj : ∀ {known known' : Bool}, mark known = mark known' → known = known' := by
  decide

/-- The entry as a step whose text begins with the mark. -/
def marked (e : CoverageEntry) : Step :=
  ⟨e.number, String.ofList (mark e.known :: ' ' :: e.text.toList), 0⟩

theorem marked_inj {e f : CoverageEntry} (hnumber : e.marked.number = f.marked.number)
    (htext : e.marked.text = f.marked.text) : e = f := by
  obtain ⟨n, text, known⟩ := e
  obtain ⟨m, text', known'⟩ := f
  obtain rfl : n = m := hnumber
  have hchars := congrArg String.toList htext
  rw [marked, marked, String.toList_ofList, String.toList_ofList] at hchars
  obtain ⟨hmark, hrest⟩ := List.cons.inj hchars
  obtain rfl : text = text' := String.toList_inj.mp (List.cons.inj hrest).2
  obtain rfl : known = known' := mark_inj hmark
  rfl

end CoverageEntry

namespace Coverage

theorem toList_entryLine (e : CoverageEntry) : (entryLine e).toList = lineChars e.marked := by
  cases hknown : e.known <;>
    simp [entryLine, lineChars, entryChars, CoverageEntry.marked, CoverageEntry.mark, hknown,
      Text.padLeft, Text.spaces, toString, Nat.repr]

theorem entryLine_injective : Function.Injective entryLine := by
  intro e f h
  have hchars : lineChars e.marked = lineChars f.marked := by
    rw [← toList_entryLine, h, toList_entryLine]
  exact CoverageEntry.marked_inj (lineChars_inj hchars).1 (lineChars_inj hchars).2

def unknownHeading : String :=
  "=== UNKNOWN STEPS TO IMPLEMENT ==="

def entryLines (lines : List String) : List String :=
  lines.tail.takeWhile (· != "")

def unknownLines (lines : List String) : List String :=
  (lines.dropWhile (· != unknownHeading)).tail

def labelled (label : String) (lines : List String) : List String :=
  lines.filter fun line => label.toList.isPrefixOf line.toList

def summary (c : Coverage) : List String :=
  ["", "=== SUMMARY ===",
    "Total steps: " ++ toString c.length,
    "Known (✅): " ++ toString c.knownCount,
    "Unknown (❌): " ++ toString (c.length - c.knownCount),
    "Coverage: " ++ Decimal.fixedText 1 c.percent ++ "%"]

theorem reportLines_eq (c : Coverage) : c.reportLines =
    "=== NORMALIZED STEPS LIST ===" :: (c.map entryLine ++ (c.summary ++ c.unknownSection)) := by
  simp [reportLines, summary]

/-- How a line for an entry begins, and no other line. -/
def beginsEntry (x : Char) : Bool :=
  x == ' ' || Text.isDecimalDigit x

theorem head_entryLine (e : CoverageEntry) :
    ∃ x, (entryLine e).toList.head? = some x ∧ beginsEntry x = true := by
  obtain ⟨x, hx, hfirst⟩ := first_lineChars e.marked
  rw [toList_entryLine]
  exact ⟨x, hx, by simpa [beginsEntry] using hfirst⟩

theorem entryLine_ne {line : String} (h : line.toList.head?.any beginsEntry = false)
    (e : CoverageEntry) : entryLine e ≠ line := by
  rintro rfl
  obtain ⟨x, hx, hfirst⟩ := head_entryLine e
  rw [hx, Option.any_some, hfirst] at h
  contradiction

theorem entryLines_reportLines (c : Coverage) : entryLines c.reportLines = c.map entryLine := by
  have hentry : ∀ line ∈ c.map entryLine, (line != "") = true := by
    intro line hline
    obtain ⟨e, -, rfl⟩ := List.mem_map.mp hline
    exact bne_iff_ne.mpr (entryLine_ne (by decide) e)
  unfold entryLines
  rw [reportLines_eq, List.tail_cons, List.takeWhile_append_of_pos hentry]
  exact List.append_nil _

theorem head_append {label : String} {x : Char} (h : label.toList.head? = some x) (rest : String) :
    (label ++ rest).toList.head? = some x := by
  rw [String.toList_append, List.head?_append, h]
  rfl

theorem head_summary {c : Coverage} {line : String} (h : line ∈ c.summary) :
    line = "" ∨ line = "=== SUMMARY ===" ∨
      ∃ x ∈ ['T', 'K', 'U', 'C'], line.toList.head? = some x := by
  simp only [summary, List.mem_cons, List.not_mem_nil, or_false] at h
  obtain rfl | rfl | rfl | rfl | rfl | rfl := h
  · exact .inl rfl
  · exact .inr (.inl rfl)
  · exact .inr (.inr ⟨'T', by decide, head_append rfl _⟩)
  · exact .inr (.inr ⟨'K', by decide, head_append rfl _⟩)
  · exact .inr (.inr ⟨'U', by decide, head_append rfl _⟩)
  · exact .inr (.inr ⟨'C', by decide, head_append (head_append rfl _) _⟩)

/-- A text may look like the heading, but its line begins with its number. -/
theorem ne_heading {c : Coverage} {line : String}
    (h : line ∈ "=== NORMALIZED STEPS LIST ===" :: (c.map entryLine ++ c.summary)) :
    line ≠ unknownHeading := by
  obtain rfl | hline := List.mem_cons.mp h
  · decide
  obtain hline | hline := List.mem_append.mp hline
  · obtain ⟨e, -, rfl⟩ := List.mem_map.mp hline
    exact entryLine_ne (by decide) e
  · obtain rfl | rfl | ⟨x, hx, hfirst⟩ := head_summary hline
    · decide
    · decide
    · rintro rfl
      obtain rfl : '=' = x := Option.some.inj hfirst
      exact absurd hx (by decide)

theorem unknownSection_of_ne_nil {c : Coverage} (h : c.unknown ≠ []) :
    c.unknownSection = "" :: unknownHeading :: c.unknown.map unknownLine :=
  if_neg (by simpa using h)

theorem unknownSection_of_nil {c : Coverage} (h : c.unknown = []) : c.unknownSection = [] :=
  if_pos (by simp [h])

theorem dropWhile_reportLines (c : Coverage) :
    c.reportLines.dropWhile (· != unknownHeading) =
      c.unknownSection.dropWhile (· != unknownHeading) := by
  have hfront : ∀ line ∈ "=== NORMALIZED STEPS LIST ===" :: (c.map entryLine ++ c.summary),
      (line != unknownHeading) = true := fun line hline => bne_iff_ne.mpr (ne_heading hline)
  rw [reportLines_eq, ← List.append_assoc, ← List.cons_append]
  exact List.dropWhile_append_of_pos hfront

theorem unknownLines_reportLines (c : Coverage) :
    unknownLines c.reportLines = c.unknown.map unknownLine := by
  unfold unknownLines
  rw [dropWhile_reportLines]
  by_cases h : c.unknown = []
  · rw [unknownSection_of_nil h, h]
    rfl
  · rw [unknownSection_of_ne_nil h]
    rfl

theorem heading_mem_reportLines_iff (c : Coverage) :
    unknownHeading ∈ c.reportLines ↔ ∃ e ∈ c, e.known = false := by
  have hunknown : c.unknown ≠ [] ↔ ∃ e ∈ c, e.known = false := by
    simp [unknown]
  rw [← hunknown, reportLines_eq, ← List.append_assoc, ← List.cons_append, List.mem_append]
  constructor
  · rintro (hfront | hsection) hnil
    · exact ne_heading hfront rfl
    · rw [unknownSection_of_nil hnil] at hsection
      contradiction
  · intro h
    rw [unknownSection_of_ne_nil h]
    exact .inr (by simp)

theorem not_labelled {label line : String} {x : Char} (hlabel : label.toList.head? = some x)
    (hline : line.toList.head? ≠ some x) : label.toList.isPrefixOf line.toList = false := by
  refine Bool.eq_false_iff.mpr fun h => hline ?_
  obtain ⟨rest, hrest⟩ := List.isPrefixOf_iff_prefix.mp h
  rw [← hrest, List.head?_append, hlabel]
  rfl

theorem head_unknownSection {c : Coverage} {line : String} (h : line ∈ c.unknownSection) :
    line.toList.head? ∈ [none, some '=', some 'L'] := by
  by_cases hnil : c.unknown = []
  · rw [unknownSection_of_nil hnil] at h
    contradiction
  · rw [unknownSection_of_ne_nil hnil, List.mem_cons, List.mem_cons] at h
    obtain rfl | rfl | h := h
    · decide
    · decide
    · obtain ⟨e, -, rfl⟩ := List.mem_map.mp h
      have hfirst : (unknownLine e).toList.head? = some 'L' :=
        head_append (head_append (head_append (head_append rfl _) _) _) _
      rw [hfirst]
      decide

theorem labelled_reportLines {c : Coverage} {label : String} {x : Char}
    (hlabel : label.toList.head? = some x) (hx : x ∈ ['T', 'K', 'U']) :
    labelled label c.reportLines = labelled label c.summary := by
  -- how the title, the section of unknown steps and the lines for entries begin
  have hother : some x ∉ [none, some '=', some 'L'] ∧ beginsEntry x = false := by
    rw [List.mem_cons, List.mem_cons, List.mem_singleton] at hx
    obtain rfl | rfl | rfl := hx <;> decide
  obtain ⟨hlines, hentry⟩ := hother
  have hnone {lines : List String} (h : ∀ line ∈ lines, line.toList.head? ≠ some x) :
      labelled label lines = [] :=
    List.filter_eq_nil_iff.mpr fun line hline =>
      Bool.eq_false_iff.mp (not_labelled hlabel (h line hline))
  have htitle : labelled label ["=== NORMALIZED STEPS LIST ==="] = [] := by
    refine hnone fun line hline heq => ?_
    obtain rfl := List.mem_singleton.mp hline
    exact hlines (heq ▸ by decide)
  have hentries : labelled label (c.map entryLine) = [] := by
    refine hnone fun line hline heq => ?_
    obtain ⟨e, -, rfl⟩ := List.mem_map.mp hline
    obtain ⟨y, hy, hfirst⟩ := head_entryLine e
    obtain rfl : x = y := Option.some.inj (heq.symm.trans hy)
    exact Bool.false_ne_true (hentry.symm.trans hfirst)
  have hsection : labelled label c.unknownSection = [] :=
    hnone fun line hline heq => hlines (heq ▸ head_unknownSection hline)
  have happend (l l' : List String) :
      labelled label (l ++ l') = labelled label l ++ labelled label l' := List.filter_append l l'
  rw [reportLines_eq, ← List.singleton_append, happend, happend, happend, htitle, hentries, hsection,
    List.append_nil]
  rfl

theorem labelled_sums (c : Coverage) :
    labelled "Total steps: " c.reportLines = ["Total steps: " ++ toString c.length] ∧
    labelled "Known (✅): " c.reportLines = ["Known (✅): " ++ toString c.knownCount] ∧
    labelled "Unknown (❌): " c.reportLines =
      ["Unknown (❌): " ++ toString (c.length - c.knownCount)] := by
  refine ⟨?_, ?_, ?_⟩
  · rw [labelled_reportLines rfl (by decide)]
    simp [labelled, summary, String.toList_append]
  · rw [labelled_reportLines rfl (by decide)]
    simp [labelled, summary, String.toList_append]
  · rw [labelled_reportLines rfl (by decide)]
    simp [labelled, summary, String.toList_append]

theorem known_add_unknown (c : Coverage) : c.knownCount + c.unknown.length = c.length := by
  have hsum := c.length_eq_countP_add_countP (·.known)
  rw [hsum, unknown, ← List.countP_eq_length_filter, knownCount]
  simp

theorem lineFeed_not_mem_toDigits (n : Nat) : '\n' ∉ Nat.toDigits 10 n :=
  fun h => absurd (isDigit_of_mem_toDigits _ h) (by decide)

theorem lineFeed_not_mem_toString (n : Nat) : '\n' ∉ (toString n).toList := by
  simpa using lineFeed_not_mem_toDigits n

theorem lineFeed_not_mem_placed (n places : Nat) : '\n' ∉ (Decimal.placed n places).toList := by
  unfold Decimal.placed
  split
  · exact lineFeed_not_mem_toString n
  · have hdigits : '\n' ∉ (String.ofList (List.replicate (places + 1 - (toString n).length) '0') ++
        toString n).toList := by
      rw [String.toList_append, String.toList_ofList, List.mem_append, List.mem_replicate]
      rintro (⟨-, h⟩ | h)
      · exact absurd h (by decide)
      · exact lineFeed_not_mem_toString n h
    dsimp only
    rw [String.toList_ofList, List.mem_append, List.mem_cons]
    rintro (h | h | h)
    · exact hdigits (List.mem_of_mem_take h)
    · exact absurd h (by decide)
    · exact hdigits (List.mem_of_mem_drop h)

theorem lineFeed_not_mem_fixedText (places : Nat) (x : Float) :
    '\n' ∉ (Decimal.fixedText places x).toList := by
  have hfixed (f : Decimal.Fraction) : '\n' ∉ (f.fixed places).toList :=
    lineFeed_not_mem_placed _ places
  unfold Decimal.fixedText
  dsimp only
  split_ifs <;> simp [String.toList_append, hfixed]

theorem lineFeed_not_mem {c : Coverage} (h : ∀ e ∈ c, '\n' ∉ e.text.toList) {line : String}
    (hline : line ∈ c.reportLines) : '\n' ∉ line.toList := by
  have hnumber := lineFeed_not_mem_toDigits
  rw [reportLines_eq, List.mem_cons, List.mem_append, List.mem_append] at hline
  obtain rfl | hline | hline | hline := hline
  · decide
  · obtain ⟨e, he, rfl⟩ := List.mem_map.mp hline
    cases hknown : e.known <;>
      simp [entryLine, Text.padLeft, Text.spaces, hknown, hnumber, h e he, List.mem_replicate]
  · simp only [summary, List.mem_cons, List.not_mem_nil, or_false] at hline
    obtain rfl | rfl | rfl | rfl | rfl | rfl := hline <;>
      simp [hnumber, lineFeed_not_mem_fixedText]
  · by_cases hnil : c.unknown = []
    · rw [unknownSection_of_nil hnil] at hline
      contradiction
    · rw [unknownSection_of_ne_nil hnil, List.mem_cons, List.mem_cons] at hline
      obtain rfl | rfl | hline := hline
      · decide
      · decide
      · obtain ⟨e, he, rfl⟩ := List.mem_map.mp hline
        simp [unknownLine, hnumber, h e (List.mem_of_mem_filter he)]

theorem printedLines_render {c : Coverage} (h : ∀ e ∈ c, '\n' ∉ e.text.toList) :
    Text.printedLines c.render = c.reportLines :=
  Text.printedLines_join fun _ hline => lineFeed_not_mem h hline

theorem render_injective {c d : Coverage} (hc : ∀ e ∈ c, '\n' ∉ e.text.toList)
    (hd : ∀ e ∈ d, '\n' ∉ e.text.toList) (h : c.render = d.render) : c = d := by
  have hlines : c.reportLines = d.reportLines := by
    rw [← printedLines_render hc, h, printedLines_render hd]
  have hentries : c.map entryLine = d.map entryLine := by
    rw [← entryLines_reportLines, hlines, entryLines_reportLines]
  exact entryLine_injective.list_map hentries

theorem lineFeed_not_mem_ofSteps {catalogue : Catalogue} {steps : List Step}
    (h : ∀ s ∈ steps, '\n' ∉ s.text.toList) :
    ∀ e ∈ ofSteps catalogue steps, '\n' ∉ e.text.toList := by
  intro e he
  obtain ⟨s, hs, rfl⟩ := List.mem_map.mp he
  exact h s hs

/-- Two reports on steps without line feeds are equal only if the entries are. In every report the
section of unknown steps is there exactly if there is an unknown entry, and it lists the unknown
entries in their order; and the three sums are the number of lines for entries, how many of them are
known, and how many are not. Where no step has a line feed, its lines are those of the text. -/
theorem report_loses_nothing :
    (∀ catalogue catalogue' steps steps', (∀ s ∈ steps, '\n' ∉ s.text.toList) →
      (∀ s ∈ steps', '\n' ∉ s.text.toList) →
      render (ofSteps catalogue steps) = render (ofSteps catalogue' steps') →
      ofSteps catalogue steps = ofSteps catalogue' steps') ∧
    ∀ catalogue steps,
      let c := ofSteps catalogue steps
      let lines := c.reportLines
      c.render = String.join (lines.map (· ++ "\n")) ∧
      ((∀ s ∈ steps, '\n' ∉ s.text.toList) → Text.printedLines c.render = lines) ∧
      (unknownHeading ∈ lines ↔ ∃ e ∈ c, e.known = false) ∧
      unknownLines lines = c.unknown.map unknownLine ∧
      entryLines lines = c.map entryLine ∧
      labelled "Total steps: " lines = ["Total steps: " ++ toString (entryLines lines).length] ∧
      ∃ known unknown, labelled "Known (✅): " lines = ["Known (✅): " ++ toString known] ∧
        labelled "Unknown (❌): " lines = ["Unknown (❌): " ++ toString unknown] ∧
        known = c.knownCount ∧ unknown = (unknownLines lines).length ∧
        known + unknown = (entryLines lines).length := by
  refine ⟨fun catalogue catalogue' steps steps' h h' => ?_, fun catalogue steps => ?_⟩
  · exact render_injective (lineFeed_not_mem_ofSteps h) (lineFeed_not_mem_ofSteps h')
  · intro c lines
    obtain ⟨htotal, hknown, hunknown⟩ := c.labelled_sums
    have hsum := c.known_add_unknown
    have hcount : (entryLines lines).length = c.length := by
      rw [entryLines_reportLines, List.length_map]
    have hlisted : (unknownLines lines).length = c.unknown.length := by
      rw [unknownLines_reportLines, List.length_map]
    refine ⟨rfl, fun h => printedLines_render (lineFeed_not_mem_ofSteps h),
      c.heading_mem_reportLines_iff, c.unknownLines_reportLines, c.entryLines_reportLines, ?_,
      c.knownCount, c.length - c.knownCount, hknown, hunknown, rfl, ?_, ?_⟩
    · rw [hcount]
      exact htotal
    · omega
    · omega

/-- Steps that look like parts of a report themselves. -/
theorem report_loses_nothing_lookalike :
    let steps : List Step := [⟨1, "Total steps: 7", 1⟩, ⟨2, unknownHeading, 2⟩]
    let steps' : List Step := [⟨1, "Total steps: 7", 4⟩, ⟨2, unknownHeading, 8⟩]
    let c := ofSteps [] steps
    render (ofSteps [] steps) = render (ofSteps [] steps') ∧ ofSteps [] steps = ofSteps [] steps' ∧
      Text.printedLines c.render = c.reportLines ∧ unknownHeading ∈ c.reportLines ∧
      unknownLines c.reportLines =
        ["Line 1: \"Total steps: 7\"", "Line 2: \"=== UNKNOWN STEPS TO IMPLEMENT ===\""] ∧
      labelled "Total steps: " c.reportLines = ["Total steps: 2"] := by
  intro steps steps' c
  have hsteps : ∀ s ∈ steps, '\n' ∉ s.text.toList := by decide
  have hsteps' : ∀ s ∈ steps', '\n' ∉ s.text.toList := by decide
  have hrender : render (ofSteps [] steps) = render (ofSteps [] steps') := rfl
  have hsame := report_loses_nothing.1 [] [] steps steps' hsteps hsteps' hrender
  obtain ⟨-, hprinted, hsection, hlisted, hentries, htotal, -⟩ := report_loses_nothing.2 [] steps
  refine ⟨hrender, hsame, hprinted hsteps, hsection.mpr (by decide), hlisted.trans (by decide), ?_⟩
  rw [hentries] at htotal
  exact htotal.trans (by decide)

end Coverage

end Walkthrough
