import Walkthrough.CommandLine.Program
import Walkthrough.Proofs.Phrasing.Wording
import Walkthrough.Proofs.StepFile.Reading
import Walkthrough.Proofs.Text.Lines
import Walkthrough.Proofs.Text.Numeral

namespace Walkthrough.StepFile

open Phrasebook Phrasing

theorem isDigit_of_mem_toDigits {n : Nat} : ∀ x ∈ Nat.toDigits 10 n, x.isDigit = true :=
  fun _ hx => Nat.isDigit_of_mem_toDigits (by decide) (by decide) hx

theorem isListNumber_toDigits (n : Nat) : IsListNumber (Nat.toDigits 10 n) '.' :=
  ⟨Nat.toDigits_ne_nil, fun x hx => Text.isDecimalDigit_of_isDigit (isDigit_of_mem_toDigits x hx),
    .inl rfl⟩

def entryChars (s : Step) : List Char :=
  Nat.toDigits 10 s.number ++ '.' :: ' ' :: s.text.toList

theorem first_entryChars (s : Step) :
    ∃ x, (entryChars s).head? = some x ∧ Text.isDecimalDigit x = true := by
  have hdigits := isListNumber_toDigits s.number
  unfold entryChars
  rw [List.head?_append_of_ne_nil _ hdigits.some, List.head?_eq_some_head hdigits.some]
  exact ⟨_, rfl, hdigits.digits _ (List.head_mem hdigits.some)⟩

def lineChars (s : Step) : List Char :=
  List.replicate (3 - (toString s.number).length) ' ' ++ entryChars s

theorem first_lineChars (s : Step) :
    ∃ x, (lineChars s).head? = some x ∧ (x = ' ' ∨ Text.isDecimalDigit x = true) := by
  unfold lineChars
  cases 3 - (toString s.number).length with
  | zero =>
    obtain ⟨x, hx, hdigit⟩ := first_entryChars s
    exact ⟨x, hx, .inr hdigit⟩
  | succ k => exact ⟨' ', rfl, .inl rfl⟩

theorem toList_stepLine (s : Step) : (Program.stepLine s).toList = lineChars s ++ ['\n'] := by
  simp [Program.stepLine, Text.padLeft, Text.spaces, lineChars, entryChars, toString, Nat.repr]

structure Printable (text : String) : Prop where
  some : text.toList ≠ []
  trimmed : Text.Trimmed text.toList
  line : '\n' ∉ text.toList

section
variable {s : Step} (h : Printable s.text)
include h

theorem trimmed_entryChars : Text.Trimmed (entryChars s) := by
  have hdigits := isListNumber_toDigits s.number
  have hsplit : entryChars s = (Nat.toDigits 10 s.number ++ ['.', ' ']) ++ s.text.toList := by
    simp [entryChars]
  rw [hsplit]
  refine Text.Trimmed.append (fun x hx => ?_) (by simp) h.trimmed h.some
  rw [List.head?_append_of_ne_nil _ hdigits.some] at hx
  by_contra hblank
  have hnone := Text.not_digit_of_isBlank (Bool.eq_true_of_not_eq_false hblank)
  exact Bool.false_ne_true (hnone.symm.trans (hdigits.digits x (List.mem_of_head? hx)))

theorem trimChars_lineChars : Text.trimChars (lineChars s) = entryChars s := by
  have hspaces : ∀ x ∈ List.replicate (3 - (toString s.number).length) ' ',
      Text.isBlank x = true := by
    intro x hx
    rw [List.eq_of_mem_replicate hx]
    decide
  unfold lineChars
  rw [Text.trimChars_blanks_append hspaces, (trimmed_entryChars h).trimChars_eq]

theorem isLine_lineChars : Text.IsLine (lineChars s) := by
  have hne : entryChars s ≠ [] := by simp [entryChars]
  constructor
  · have hdigits : '\n' ∉ Nat.toDigits 10 s.number := fun hmem =>
      absurd ((isListNumber_toDigits s.number).digits _ hmem) (by decide)
    simp [lineChars, entryChars, List.mem_replicate, hdigits, h.line]
  · intro hlast
    rw [lineChars, List.getLast?_append_of_ne_nil _ hne] at hlast
    exact absurd ((trimmed_entryChars h).last _ hlast) (by decide)

/-- A printed line is read again as its text without what might be the mark of a list item. -/
theorem canonical_entryChars (book : Phrasebook) :
    book.canonical (String.ofList (entryChars s)) =
      book.rephrase (String.ofList (Text.trimChars (dropHyphen s.text.toList))) := by
  have hblank : ∀ x ∈ [' '], Text.isBlank x = true := List.forall_mem_singleton.mpr (by decide)
  have hspace : Text.dropBlanks (' ' :: s.text.toList) = s.text.toList :=
    (Text.dropBlanks_append_of_blank hblank _).trans (Text.dropBlanks_eq_self h.trimmed.first)
  have hnumber : dropNumber (entryChars s) = s.text.toList :=
    (dropNumber_of_number (isListNumber_toDigits s.number)
      (Text.dropBlanks_eq_self (trimmed_entryChars h).first)).trans hspace
  unfold canonical withoutMarker withoutMarkerChars
  rw [String.toList_ofList, hnumber]

end

theorem toList_stepsText (steps : List Step) : (Program.stepsText .human steps).toList =
    (steps.map lineChars).flatMap (· ++ ['\n']) := by
  have hjoin : Program.stepsText .human steps = String.join (steps.map Program.stepLine) := rfl
  rw [hjoin, String.toList_join, List.flatMap_map, List.flatMap_map]
  exact List.flatMap_congr fun s _ => toList_stepLine s

theorem withoutMark_stepsText (steps : List Step) :
    withoutMark (Program.stepsText .human steps) = Program.stepsText .human steps := by
  refine withoutMark_of_head ?_
  rw [toList_stepsText]
  cases steps with
  | nil => simp
  | cons s steps =>
    obtain ⟨x, hx, hfirst⟩ := first_lineChars s
    simp only [List.map_cons, List.flatMap_cons, List.head?_append, hx, Option.some_or, ne_eq,
      Option.some.injEq]
    rintro rfl
    exact absurd hfirst (by decide)

theorem lines_stepsText {steps : List Step} (h : ∀ s ∈ steps, Printable s.text) :
    Text.lines (Program.stepsText .human steps) = steps.map (String.ofList ∘ lineChars) := by
  unfold Text.lines
  rw [toList_stepsText, Text.linesFrom_flatMap, List.map_map]
  intro l hl
  obtain ⟨s, hs, rfl⟩ := List.mem_map.mp hl
  exact isLine_lineChars (h s hs)

theorem instructions_stepsText {texts : List (Nat × String)}
    (h : ∀ s ∈ numbered 1 texts, Printable s.text) :
    instructions (Program.stepsText .human (numbered 1 texts)) =
      (numbered 1 texts).map fun s => ⟨s.number, String.ofList (entryChars s)⟩ := by
  have htrim : ∀ s ∈ numbered 1 texts,
      Text.trim (String.ofList (lineChars s)) = String.ofList (entryChars s) := by
    intro s hs
    rw [Text.trim, String.toList_ofList, trimChars_lineChars (h s hs)]
  have hsays : ∀ s ∈ numbered 1 texts,
      saysSomething ⟨s.number, String.ofList (entryChars s)⟩ = true := by
    intro s _
    obtain ⟨x, hx, hdigit⟩ := first_entryChars s
    obtain ⟨rest, hrest⟩ := List.head?_eq_some_iff.mp hx
    unfold saysSomething
    rw [String.toList_ofList, hrest]
    refine bne_iff_ne.mpr ?_
    rintro rfl
    exact absurd hdigit (by decide)
  unfold instructions
  rw [withoutMark_stepsText, lines_stepsText h, List.zipIdx_map, zipIdx_numbered, List.map_map,
    List.map_map, List.filter_eq_self.mpr]
  · exact List.map_congr_left fun s hs => congrArg (Instruction.mk s.number) (htrim s hs)
  · intro i hi
    obtain ⟨s, hs, rfl⟩ := List.mem_map.mp hi
    dsimp only [Function.comp, Prod.map, id]
    rw [htrim s hs]
    exact hsays s hs

def reread (book : Phrasebook) (text : String) : String :=
  book.rephrase (String.ofList (Text.trimChars (dropHyphen text.toList)))

theorem load_stepsText (book : Phrasebook) {texts : List (Nat × String)}
    (h : ∀ s ∈ numbered 1 texts, Printable s.text) :
    load book .everything (Program.stepsText .human (numbered 1 texts)) =
      numbered 1 (((numbered 1 texts).map fun s => (s.number, reread book s.text)).filter
        fun w => !w.2.isEmpty) := by
  have hentries : ∀ s ∈ numbered 1 texts,
      (s.number, book.canonical (String.ofList (entryChars s))) = (s.number, reread book s.text) :=
    fun s hs => congrArg (Prod.mk s.number) (canonical_entryChars (h s hs) book)
  rw [load_everything, instructions_stepsText h, worded, List.map_map]
  exact congrArg (fun ws => numbered 1 (ws.filter fun w => !w.2.isEmpty))
    (List.map_congr_left hentries)

theorem lineFeed_not_mem_instructions {text : String} {i : Instruction}
    (hi : i ∈ instructions text) : '\n' ∉ i.text.toList := by
  obtain ⟨⟨line, n⟩, hline, rfl⟩ := List.mem_map.mp (List.mem_filter.mp hi).1
  have hmem : line ∈ Text.lines (withoutMark text) := List.fst_mem_of_mem_zipIdx hline
  have htrim : (Text.trim line).toList = Text.trimChars line.toList := String.toList_ofList
  dsimp only
  rw [htrim]
  exact fun hm => Text.lineFeed_not_mem_lines hmem ((Text.trimChars_isInfix _).subset hm)

theorem canonical_of_mem_load {book : Phrasebook} {text : String} {s : Step}
    (hs : s ∈ load book .everything text) :
    s.text.toList ≠ [] ∧ ∃ i ∈ instructions text, s.text = book.canonical i.text := by
  have hmem : s.text ∈ (worded book (instructions text)).map (·.2) := by
    rw [← map_text_numbered 1, ← load_everything]
    exact List.mem_map_of_mem hs
  obtain ⟨w, hw, hws⟩ := List.mem_map.mp hmem
  obtain ⟨hw, hsome⟩ := List.mem_filter.mp hw
  obtain ⟨i, hi, rfl⟩ := List.mem_map.mp hw
  rw [← hws]
  exact ⟨by simpa using hsome, i, hi, rfl⟩

theorem printable_of_mem_load {text : String} {s : Step}
    (hs : s ∈ load standard .everything text) : Printable s.text := by
  obtain ⟨hsome, i, hi, heq⟩ := canonical_of_mem_load hs
  have htrim := trimmed_canonical i.text
  have hline := lineFeed_not_mem_canonical (lineFeed_not_mem_instructions hi)
  rw [← heq] at htrim hline
  exact ⟨hsome, htrim, hline⟩

/-- A second reading changes the texts that start with a hyphen and no others. -/
theorem reread_eq_self_iff {text : String} (htrim : Text.Trimmed text.toList)
    (hstays : standard.rephrase text = text) :
    reread standard text = text ↔ text.toList.head? ≠ some '-' := by
  constructor
  · intro hsame hhead
    obtain ⟨rest, hrest⟩ := List.head?_eq_some_iff.mp hhead
    cases happlied : standard.applied? (String.ofList (Text.trimChars (dropHyphen text.toList))) with
    | some a =>
      refine first_ne_hyphen_of_known (knows_rephrase happlied) ?_
      unfold reread at hsame
      rw [hsame, hhead]
    | none =>
      have hlength : (Text.trimChars (dropHyphen text.toList)).length < text.toList.length := by
        rw [hrest, dropHyphen_cons]
        have hpart := (Text.trimChars_isInfix (Text.dropBlanks rest)).trans
          (Text.dropBlanks_suffix rest).isInfix
        exact Nat.lt_succ_of_le hpart.length_le
      unfold reread at hsame
      rw [rephrase_of_not_applied happlied] at hsame
      have hsize := congrArg String.toList hsame
      rw [String.toList_ofList] at hsize
      exact absurd (congrArg List.length hsize) (Nat.ne_of_lt hlength)
  · intro hhead
    unfold reread
    rw [dropHyphen_eq_self htrim hhead, htrim.trimChars_eq, String.ofList_toList, hstays]

theorem reread_of_mem_load {text : String} {s : Step} (hs : s ∈ load standard .everything text) :
    reread standard s.text = s.text ↔ s.text.toList.head? ≠ some '-' := by
  refine reread_eq_self_iff (printable_of_mem_load hs).trimmed ?_
  obtain ⟨-, i, -, heq⟩ := canonical_of_mem_load hs
  rw [heq]
  exact rephrase_rephrase _

theorem filter_map_eq_self_iff {α : Type} {f : α → α} {p : α → Bool} {l : List α}
    (h : ∀ a ∈ l, p a = true) : (l.map f).filter p = l ↔ ∀ a ∈ l, f a = a := by
  constructor
  · intro heq
    have hlength : ((l.map f).filter p).length = (l.map f).length := by
      rw [heq, List.length_map]
    rw [List.filter_eq_self.mpr (List.length_filter_eq_length_iff.mp hlength)] at heq
    exact List.map_inj_left.mp (heq.trans (List.map_id' l).symm)
  · intro hall
    rw [List.map_congr_left (g := id) hall, List.map_id, List.filter_eq_self.mpr h]

section
variable {book : Phrasebook} {text : String}
  (h : ∀ s ∈ load book .everything text, Printable s.text)
include h

theorem load_load : load book .everything (Program.stepsText .human (load book .everything text)) =
    numbered 1 (((load book .everything text).map fun s => (s.number, reread book s.text)).filter
      fun w => !w.2.isEmpty) := by
  rw [load_everything book text] at h ⊢
  exact load_stepsText book h

theorem entries_load_load :
    (load book .everything (Program.stepsText .human (load book .everything text))).map
        (fun s => (s.number, s.text)) =
      (load book .everything text).map (fun s => (s.number, s.text)) ↔
    ∀ s ∈ load book .everything text, reread book s.text = s.text := by
  have hsome : ∀ t ∈ (load book .everything text).map (·.text), (!t.isEmpty) = true := by
    intro t ht
    obtain ⟨s, hs, rfl⟩ := List.mem_map.mp ht
    simpa using (h s hs).some
  have htexts : (((load book .everything text).map fun s => (s.number, reread book s.text)).filter
      fun w => !w.2.isEmpty).map (·.2) =
      (((load book .everything text).map (·.text)).map (reread book)).filter (!·.isEmpty) := by
    rw [List.map_map, List.filter_map, List.filter_map, List.map_map]
    rfl
  have hagain : ((load book .everything text).map (fun s => (s.number, s.text))) =
      (numbered 1 (worded book (instructions text))).map (fun s => (s.number, s.text)) := rfl
  rw [load_load h, hagain, map_entry_numbered_inj, htexts, ← map_text_numbered 1, ← load_everything,
    filter_map_eq_self_iff hsome, List.forall_mem_map]

theorem exists_mem_load_load {s : Step} (hs : s ∈ load book .everything text)
    (hsame : reread book s.text = s.text) :
    ∃ s' ∈ load book .everything (Program.stepsText .human (load book .everything text)),
      s'.sourceLine = s.number ∧ s'.text = s.text := by
  rw [load_load h]
  refine exists_mem_numbered (w := (s.number, s.text)) (List.mem_filter.mpr ⟨?_, ?_⟩)
  · exact List.mem_map.mpr ⟨s, hs, by rw [hsame]⟩
  · simpa using (h s hs).some

end

/-- The steps of a text, printed and read again, are the same steps with the same numbers if and only
if none of their texts starts with a hyphen. A text that starts with a number sign or a digit, or that
a phrase has come to, is in any case found again, in the line of its number. -/
theorem reload_printed (text : String) :
    ((load standard .everything (Program.stepsText .human (load standard .everything text))).map
          (fun s => (s.number, s.text)) =
        (load standard .everything text).map (fun s => (s.number, s.text)) ↔
      ∀ s ∈ load standard .everything text, s.text.toList.head? ≠ some '-') ∧
    ∀ s ∈ load standard .everything text,
      (s.text.toList.head? = some '#' ∨ s.text.toList.head?.any Text.isDecimalDigit = true ∨
        ∃ raw, (standard.applied? (withoutMarker raw)).isSome = true ∧
          s.text = standard.canonical raw) →
      ∃ s' ∈ load standard .everything (Program.stepsText .human (load standard .everything text)),
        s'.sourceLine = s.number ∧ s'.text = s.text := by
  have hprintable : ∀ s ∈ load standard .everything text, Printable s.text :=
    fun _ hs => printable_of_mem_load hs
  constructor
  · rw [entries_load_load hprintable]
    exact forall₂_congr fun s hs => reread_of_mem_load hs
  · intro s hs hfirst
    refine exists_mem_load_load hprintable hs ((reread_of_mem_load hs).mpr ?_)
    obtain hsign | hdigit | ⟨raw, happlied, hraw⟩ := hfirst
    · rw [hsign]
      decide
    · intro hhyphen
      rw [hhyphen] at hdigit
      exact absurd hdigit (by decide)
    · obtain ⟨a, ha⟩ := Option.isSome_iff_exists.mp happlied
      rw [hraw]
      exact first_ne_hyphen_of_known (knows_rephrase ha)

/-- A comment, and steps that start with a number sign, a digit and a hyphen in the file. -/
theorem reload_printed_marked :
    (load standard .everything (Program.stepsText .human
        (load standard .everything "# list\n1. # note\n400 errors\n- Wait 250 ms\n"))).map
        (fun s => (s.number, s.text)) =
      (load standard .everything "# list\n1. # note\n400 errors\n- Wait 250 ms\n").map
        (fun s => (s.number, s.text)) :=
  (reload_printed "# list\n1. # note\n400 errors\n- Wait 250 ms\n").1.mpr (by decide +kernel)

end Walkthrough.StepFile
