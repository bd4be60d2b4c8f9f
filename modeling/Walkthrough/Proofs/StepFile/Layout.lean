import Mathlib.Algebra.BigOperators.Group.Finset.Basic
import Walkthrough.Phrasing.Standard
import Walkthrough.Proofs.StepFile.Reading
import Walkthrough.Proofs.Text.Lines
import Walkthrough.Proofs.Text.Search
import Walkthrough.Proofs.Text.Trimming

namespace Walkthrough

/-- Lines that are blank, and lines whose first character that is not blank is a number sign. -/
structure IsIdle (line : List Char) : Prop where
  lineFeed : '\n' ∉ line
  first : ∀ x ∈ (Text.dropBlanks line).head?, x = '#'

-- Checked on the characters of the line, not on all characters there are.
instance : DecidablePred IsIdle := fun line =>
  decidable_of_iff ('\n' ∉ line ∧ ((Text.dropBlanks line).head?.all fun x => x == '#') = true)
    ⟨fun ⟨hline, hfirst⟩ => ⟨hline, by simpa [Option.all_eq_true] using hfirst⟩,
      fun h => ⟨h.lineFeed, by simpa [Option.all_eq_true] using h.first⟩⟩

theorem IsIdle.nil : IsIdle [] :=
  ⟨List.not_mem_nil, nofun⟩

def IsPadding (cs : List Char) : Prop :=
  ∀ x ∈ cs, Text.isBlank x = true ∧ x ≠ '\n'

instance : DecidablePred IsPadding := fun cs =>
  decidable_of_iff ((cs.all fun x => Text.isBlank x && x != '\n') = true)
    (by simp [IsPadding])

/-- What is put around a line: idle lines above it, and padding on both sides. -/
structure Margin where
  above : List (List Char)
  left : List Char
  right : List Char
  idle : ∀ line ∈ above, IsIdle line
  padding_left : IsPadding left
  padding_right : IsPadding right

def Margin.none : Margin :=
  ⟨[], [], [], nofun, nofun, nofun⟩

def Margin.pad (m : Margin) (line : List Char) : List Char :=
  m.left ++ line ++ m.right

/-- A margin for each line, counted from zero, and idle lines below the last one. -/
structure Layout where
  margin : Nat → Margin
  below : List (List Char)
  idle : ∀ line ∈ below, IsIdle line

namespace Layout

/-- The lines from number `i` on, with what is put around them. -/
def relaidFrom (e : Layout) : Nat → List (List Char) → List (List Char)
  | _, [] => e.below
  | i, line :: lines => (e.margin i).above ++ (e.margin i).pad line :: e.relaidFrom (i + 1) lines

def apply (e : Layout) (text : String) : String :=
  String.ofList (['\n'].intercalate (e.relaidFrom 0 (Text.splitAt '\n' text.toList)))

def place (e : Layout) (n : Nat) : Nat :=
  n + ∑ i ∈ Finset.range n, (e.margin i).above.length

theorem place_zero (e : Layout) : e.place 0 = 0 :=
  rfl

theorem place_succ (e : Layout) (n : Nat) :
    e.place (n + 1) = e.place n + (e.margin n).above.length + 1 := by
  unfold place
  rw [Finset.sum_range_succ]
  omega

theorem relaidFrom_ne_nil (e : Layout) (i : Nat) {lines : List (List Char)} (h : lines ≠ []) :
    e.relaidFrom i lines ≠ [] := by
  cases lines with
  | nil => exact absurd rfl h
  | cons line lines => exact List.append_ne_nil_of_right_ne_nil _ (List.cons_ne_nil _ _)

theorem lineFeed_not_mem_pad (m : Margin) {line : List Char} (h : '\n' ∉ line) :
    '\n' ∉ m.pad line := by
  simp only [Margin.pad, List.mem_append, not_or]
  exact ⟨⟨fun hx => (m.padding_left _ hx).2 rfl, h⟩, fun hx => (m.padding_right _ hx).2 rfl⟩

theorem lineFeed_not_mem_relaidFrom (e : Layout) (i : Nat) {lines : List (List Char)}
    (h : ∀ line ∈ lines, '\n' ∉ line) : ∀ line ∈ e.relaidFrom i lines, '\n' ∉ line := by
  induction lines generalizing i with
  | nil => exact fun line hline => (e.idle line hline).lineFeed
  | cons l lines ih =>
    obtain ⟨hl, hlines⟩ := List.forall_mem_cons.mp h
    rw [relaidFrom, List.forall_mem_append, List.forall_mem_cons]
    exact ⟨fun line hline => ((e.margin i).idle line hline).lineFeed,
      lineFeed_not_mem_pad _ hl, ih (i + 1) hlines⟩

theorem splitAt_apply (e : Layout) (text : String) :
    Text.splitAt '\n' (e.apply text).toList =
      e.relaidFrom 0 (Text.splitAt '\n' text.toList) := by
  unfold apply
  rw [String.toList_ofList]
  exact Text.splitAt_intercalate (e.relaidFrom_ne_nil 0 (Text.splitAt_ne_nil _))
    (e.lineFeed_not_mem_relaidFrom 0 fun _ => Text.not_mem_of_mem_splitAt)

theorem getElem?_relaidFrom (e : Layout) (i j : Nat) {lines : List (List Char)} {line : List Char}
    (h : lines[j]? = some line) : ∃ k, e.place (i + j + 1) = e.place i + k + 1 ∧
      (e.relaidFrom i lines)[k]? = some ((e.margin (i + j)).pad line) := by
  induction lines generalizing i j with
  | nil => simp at h
  | cons l lines ih =>
    cases j with
    | zero =>
      obtain rfl : l = line := by simpa using h
      exact ⟨(e.margin i).above.length, e.place_succ i, by simp [relaidFrom]⟩
    | succ j =>
      obtain ⟨k, hplace, hline⟩ := ih (i + 1) j (by simpa using h)
      rw [Nat.add_right_comm i 1 j] at hplace hline
      refine ⟨(e.margin i).above.length + (k + 1), ?_, ?_⟩
      · rw [← Nat.add_assoc i j 1, hplace, place_succ]
        omega
      · rw [relaidFrom, List.getElem?_append_right (Nat.le_add_right _ _), Nat.add_sub_cancel_left,
          List.getElem?_cons_succ, hline]
        rfl

theorem exists_line_of_apply (e : Layout) {text : String} {i : Nat} {line : List Char}
    (h : (Text.splitAt '\n' text.toList)[i]? = some line) : ∃ k, e.place (i + 1) = k + 1 ∧
      (Text.splitAt '\n' (e.apply text).toList)[k]? = some ((e.margin i).pad line) := by
  obtain ⟨k, hplace, hline⟩ := e.getElem?_relaidFrom 0 i h
  rw [Nat.zero_add, place_zero, Nat.zero_add] at hplace
  rw [Nat.zero_add, ← splitAt_apply] at hline
  exact ⟨k, hplace, hline⟩

end Layout

def Instruction.moved (f : Nat → Nat) (i : Instruction) : Instruction :=
  { i with sourceLine := f i.sourceLine }

def Step.moved (f : Nat → Nat) (s : Step) : Step :=
  { s with sourceLine := f s.sourceLine }

theorem Scope.select_map_moved (scope : Scope) (f : Nat → Nat) (steps : List Step) :
    scope.select (steps.map (Step.moved f)) = (scope.select steps).map (Step.moved f) := by
  have hslice : scope.slice (steps.map (Step.moved f)) = (scope.slice steps).map (Step.moved f) := by
    unfold slice
    split
    · rw [List.length_map, List.map_drop, List.map_take]
    · rfl
  have hsearch (l : List Step) :
      scope.search (l.map (Step.moved f)) = (scope.search l).map (Step.moved f) := by
    unfold search
    split
    · rfl
    · split
      · rfl
      · exact List.filter_map
  rw [select, hslice, hsearch, select]

namespace StepFile

theorem worded_moved (book : Phrasebook) (f : Nat → Nat) (is : List Instruction) :
    worded book (is.map (Instruction.moved f)) = (worded book is).map fun w => (f w.1, w.2) := by
  unfold worded
  rw [List.map_map, List.filter_map, List.filter_map, List.map_map]
  rfl

theorem numbered_moved (k : Nat) (f : Nat → Nat) (texts : List (Nat × String)) :
    numbered k (texts.map fun w => (f w.1, w.2)) = (numbered k texts).map (Step.moved f) := by
  unfold numbered
  rw [List.zipIdx_map, List.map_map, List.map_map]
  rfl

theorem load_congr (book : Phrasebook) (scope : Scope) {text text' : String}
    (h : instructions text' = instructions text) : load book scope text' = load book scope text := by
  unfold load steps
  rw [h]

theorem load_moved (book : Phrasebook) (scope : Scope) {f : Nat → Nat} {text text' : String}
    (h : instructions text' = (instructions text).map (Instruction.moved f)) :
    load book scope text' = (load book scope text).map (Step.moved f) := by
  have hsteps : steps book text' = (steps book text).map (Step.moved f) := by
    rw [steps_eq_numbered, steps_eq_numbered, h, worded_moved, numbered_moved]
  unfold load
  rw [hsteps, Scope.select_map_moved]

def told (k : Nat) (lines : List (List Char)) : List Instruction :=
  ((lines.zipIdx k).map fun (line, n) => ⟨n, String.ofList (Text.trimChars line)⟩).filter
    saysSomething

theorem told_append (k : Nat) (lines lines' : List (List Char)) :
    told k (lines ++ lines') = told k lines ++ told (k + lines.length) lines' := by
  unfold told
  rw [List.zipIdx_append, List.map_append, List.filter_append]

theorem told_cons (k : Nat) (line : List Char) (lines : List (List Char)) :
    told k (line :: lines) = told k [line] ++ told (k + 1) lines :=
  told_append k [line] lines

theorem told_congr {line line' : List Char} (h : Text.trimChars line = Text.trimChars line')
    (k : Nat) : told k [line] = told k [line'] := by
  simp only [told, List.zipIdx_singleton, List.map_cons, List.map_nil, h]

theorem told_moved (f : Nat → Nat) (k : Nat) (line : List Char) :
    told (f k) [line] = (told k [line]).map (Instruction.moved f) := by
  have hsays : saysSomething ⟨f k, String.ofList (Text.trimChars line)⟩ =
      saysSomething ⟨k, String.ofList (Text.trimChars line)⟩ := rfl
  simp only [told, List.zipIdx_singleton, List.map_cons, List.map_nil, List.filter_singleton, hsays]
  cases saysSomething ⟨k, String.ofList (Text.trimChars line)⟩ <;> rfl

theorem told_of_idle {lines : List (List Char)} (h : ∀ line ∈ lines, IsIdle line) (k : Nat) :
    told k lines = [] := by
  unfold told
  rw [List.filter_eq_nil_iff]
  intro i hi
  obtain ⟨⟨line, n⟩, hline, rfl⟩ := List.mem_map.mp hi
  have hidle := h line (List.fst_mem_of_mem_zipIdx hline)
  unfold saysSomething
  rw [String.toList_ofList]
  cases htrim : Text.trimChars line with
  | nil => exact Bool.false_ne_true
  | cons c rest =>
    have hprefix : Text.trimChars line <+: Text.dropBlanks line := List.rdropWhile_prefix _ _
    obtain ⟨rest', hrest⟩ := hprefix
    rw [htrim] at hrest
    rw [hidle.first c (by rw [← hrest]; rfl)]
    exact Bool.false_ne_true

theorem trimChars_return (line : List Char) :
    Text.trimChars (line ++ ['\r']) = Text.trimChars line :=
  Text.trimChars_append_blanks (List.forall_mem_singleton.mpr (by decide)) line

theorem trimChars_finishLine (line : List Char) :
    Text.trimChars (Text.finishLine line.reverse) = Text.trimChars line := by
  unfold Text.finishLine
  split
  · next back heq =>
    obtain rfl : line = back.reverse ++ ['\r'] := by simpa using congrArg List.reverse heq
    exact (trimChars_return back.reverse).symm
  · rw [List.reverse_reverse]

theorem told_linesFrom (k : Nat) (cs : List Char) :
    told k (Text.linesFrom [] cs) = told k (Text.splitAt '\n' cs) := by
  obtain ⟨lines, hne, hlines, rfl⟩ := Text.exists_parts '\n' cs
  rw [Text.splitAt_intercalate hne hlines]
  induction lines generalizing k with
  | nil => exact absurd rfl hne
  | cons line lines ih =>
    obtain ⟨hline, hrest⟩ := List.forall_mem_cons.mp hlines
    cases lines with
    | nil =>
      rw [List.intercalate_singleton, Text.linesFrom_of_not_mem hline]
      split
      · next hempty =>
        rw [hempty, told_of_idle (List.forall_mem_singleton.mpr IsIdle.nil)]
        rfl
      · rfl
    | cons line' lines =>
      rw [List.intercalate_cons_cons, List.append_assoc, List.singleton_append,
        Text.linesFrom_append hline, List.append_nil, told_cons, told_cons k line,
        ih _ (List.cons_ne_nil _ _) hrest, told_congr (trimChars_finishLine line)]

theorem instructions_eq_told (text : String) :
    instructions text = told 1 (Text.splitAt '\n' (withoutMark text).toList) := by
  rw [← told_linesFrom]
  unfold instructions told Text.lines
  rw [List.zipIdx_map, List.map_map]
  refine congrArg (List.filter saysSomething) (List.map_congr_left fun w _ => ?_)
  simp [Text.trim]

theorem told_relaidFrom (e : Layout) (i : Nat) (lines : List (List Char)) :
    told (e.place i + 1) (e.relaidFrom i lines) =
      (told (i + 1) lines).map (Instruction.moved e.place) := by
  induction lines generalizing i with
  | nil => exact told_of_idle e.idle _
  | cons line lines ih =>
    have hplace : e.place i + 1 + (e.margin i).above.length = e.place (i + 1) := by
      rw [e.place_succ]
      omega
    have hpad : Text.trimChars ((e.margin i).pad line) = Text.trimChars line :=
      Text.trimChars_pad (fun x hx => ((e.margin i).padding_left x hx).1)
        (fun x hx => ((e.margin i).padding_right x hx).1) line
    rw [Layout.relaidFrom, told_append, told_of_idle (e.margin i).idle, List.nil_append, hplace,
      told_cons, told_congr hpad, told_moved, ih, ← List.map_append, ← told_cons]

def withReturnsChars (cs : List Char) : List Char :=
  cs.flatMap fun c => if c = '\n' then ['\r', '\n'] else [c]

def withReturns (text : String) : String :=
  String.ofList (withReturnsChars text.toList)

theorem toList_withReturns (text : String) :
    (withReturns text).toList = withReturnsChars text.toList :=
  String.toList_ofList

theorem withReturnsChars_of_not_mem {line : List Char} (h : '\n' ∉ line) :
    withReturnsChars line = line := by
  unfold withReturnsChars
  rw [List.flatMap_congr (g := fun c => [c]), List.flatMap_singleton']
  intro c hc
  have hne : c ≠ '\n' := fun he => h (he ▸ hc)
  rw [if_neg hne]

theorem withReturnsChars_append {line : List Char} (h : '\n' ∉ line) (rest : List Char) :
    withReturnsChars (line ++ '\n' :: rest) = (line ++ ['\r']) ++ '\n' :: withReturnsChars rest := by
  have hsplit : withReturnsChars (line ++ '\n' :: rest) =
      withReturnsChars line ++ '\r' :: '\n' :: withReturnsChars rest := by
    simp [withReturnsChars]
  rw [hsplit, withReturnsChars_of_not_mem h, List.append_assoc]
  rfl

theorem told_withReturns (k : Nat) (cs : List Char) :
    told k (Text.splitAt '\n' (withReturnsChars cs)) = told k (Text.splitAt '\n' cs) := by
  obtain ⟨lines, hne, hlines, rfl⟩ := Text.exists_parts '\n' cs
  rw [Text.splitAt_intercalate hne hlines]
  induction lines generalizing k with
  | nil => exact absurd rfl hne
  | cons line lines ih =>
    obtain ⟨hline, hrest⟩ := List.forall_mem_cons.mp hlines
    cases lines with
    | nil =>
      rw [List.intercalate_singleton, withReturnsChars_of_not_mem hline,
        Text.splitAt_of_not_mem hline]
    | cons line' lines =>
      have hreturn : '\n' ∉ line ++ ['\r'] := by simp [hline]
      rw [List.intercalate_cons_cons, List.append_assoc, List.singleton_append,
        withReturnsChars_append hline, Text.splitAt_append hreturn, told_cons,
        told_congr (trimChars_return line), ih _ (List.cons_ne_nil _ _) hrest, ← told_cons]

/-- Texts with no byte-order mark in front. -/
def Unmarked (cs : List Char) : Prop :=
  cs.head? ≠ some '\ufeff'

theorem withoutMark_mark (text : String) : withoutMark ("\ufeff" ++ text) = text := by
  unfold withoutMark
  rw [String.toList_append]
  exact String.ofList_toList

theorem unmarked_withReturns {text : String} (h : Unmarked text.toList) :
    Unmarked (withReturns text).toList := by
  rw [toList_withReturns]
  cases hcs : text.toList with
  | nil => simp [withReturnsChars, Unmarked]
  | cons c rest =>
    rw [hcs] at h
    unfold Unmarked withReturnsChars
    rw [List.flatMap_cons]
    split
    · simp
    · exact h

theorem Unmarked.append {cs cs' : List Char} (h : Unmarked cs) (h' : Unmarked cs') :
    Unmarked (cs ++ cs') := by
  cases cs with
  | nil => exact h'
  | cons c rest => exact h

theorem unmarked_of_isPadding {cs : List Char} (h : IsPadding cs) : Unmarked cs := by
  intro hmark
  exact absurd (h _ (List.mem_of_head? hmark)).1 (by decide)

theorem unmarked_of_isIdle {line : List Char} (h : IsIdle line) : Unmarked line := by
  intro hmark
  have hsame : Text.dropBlanks line = line := by
    refine Text.dropBlanks_eq_self fun x hx => ?_
    rw [hmark] at hx
    obtain rfl := Option.some.inj hx
    decide
  exact absurd (h.first _ (hsame.symm ▸ hmark)) (by decide)

theorem unmarked_intercalate_iff {line : List Char} {lines : List (List Char)} :
    Unmarked (['\n'].intercalate (line :: lines)) ↔ Unmarked line := by
  unfold Unmarked
  cases lines with
  | nil => rw [List.intercalate_singleton]
  | cons line' lines =>
    rw [List.intercalate_cons_cons, List.append_assoc]
    cases line with
    | nil => simp
    | cons c line => rfl

theorem unmarked_apply (e : Layout) {text : String} (h : Unmarked text.toList) :
    Unmarked (e.apply text).toList := by
  obtain ⟨lines, hne, hlines, htext⟩ := Text.exists_parts '\n' text.toList
  unfold Layout.apply
  rw [htext] at h ⊢
  rw [Text.splitAt_intercalate hne hlines, String.toList_ofList]
  obtain ⟨line, lines, rfl⟩ := List.exists_cons_of_ne_nil hne
  have hpad : Unmarked ((e.margin 0).pad line) :=
    ((unmarked_of_isPadding (e.margin 0).padding_left).append
      (unmarked_intercalate_iff.mp h)).append (unmarked_of_isPadding (e.margin 0).padding_right)
  have hidle := (e.margin 0).idle
  rw [Layout.relaidFrom]
  cases habove : (e.margin 0).above with
  | nil => exact unmarked_intercalate_iff.mpr hpad
  | cons first above =>
    rw [habove] at hidle
    exact unmarked_intercalate_iff.mpr (unmarked_of_isIdle (hidle first List.mem_cons_self))

/-- The texts that differ from one text in their mark and their line ends only. -/
def variants (text : String) : List String :=
  [text, withReturns text, "\ufeff" ++ text, "\ufeff" ++ withReturns text]

theorem instructions_of_unmarked {text : String} (h : Unmarked text.toList) :
    instructions text = told 1 (Text.splitAt '\n' text.toList) := by
  rw [instructions_eq_told, withoutMark_of_head h]

theorem instructions_mark {text : String} (h : Unmarked text.toList) :
    instructions ("\ufeff" ++ text) = instructions text := by
  rw [instructions_eq_told, withoutMark_mark, instructions_of_unmarked h]

theorem instructions_withReturns {text : String} (h : Unmarked text.toList) :
    instructions (withReturns text) = instructions text := by
  rw [instructions_of_unmarked (unmarked_withReturns h), toList_withReturns, told_withReturns,
    instructions_of_unmarked h]

theorem instructions_apply (e : Layout) {text : String} (h : Unmarked text.toList) :
    instructions (e.apply text) = (instructions text).map (Instruction.moved e.place) := by
  rw [instructions_of_unmarked (unmarked_apply e h), instructions_of_unmarked h,
    Layout.splitAt_apply]
  exact told_relaidFrom e 0 _

theorem instructions_of_mem_variants {text text' : String} (h : Unmarked text.toList)
    (hmem : text' ∈ variants text) : instructions text' = instructions text := by
  simp only [variants, List.mem_cons, List.not_mem_nil, or_false] at hmem
  obtain rfl | rfl | rfl | rfl := hmem
  · rfl
  · exact instructions_withReturns h
  · exact instructions_mark h
  · rw [instructions_mark (unmarked_withReturns h), instructions_withReturns h]

/-- The layout of a text without a mark in front does not matter. The mark, carriage returns in front of
line feeds, blanks at the ends of lines, idle lines between lines, and all of these together leave the
numbers and the texts of the steps as they are, and each step comes from the new place of its line. In
every file the steps stand in the order of their numbers. -/
theorem load_relaid (book : Phrasebook) (scope : Scope) {text : String}
    (h : text.toList.head? ≠ some '\ufeff') :
    load book scope ("\ufeff" ++ text) = load book scope text ∧
    load book scope (withReturns text) = load book scope text ∧
    (∀ e : Layout,
      (∀ relaid ∈ variants (e.apply text),
        load book scope relaid = (load book scope text).map (Step.moved e.place)) ∧
      ∀ i line, (Text.splitAt '\n' text.toList)[i]? = some line →
        ∃ k, e.place (i + 1) = k + 1 ∧
          (Text.splitAt '\n' (e.apply text).toList)[k]? = some ((e.margin i).pad line)) ∧
    ∀ any : String, (load book scope any).Pairwise fun s s' =>
      s.number < s'.number ∧ s.sourceLine < s'.sourceLine := by
  refine ⟨?_, ?_, fun e => ⟨fun relaid hrelaid => ?_, fun i line => e.exists_line_of_apply⟩,
    pairwise_load book scope⟩
  · exact load_congr book scope (instructions_mark h)
  · exact load_congr book scope (instructions_withReturns h)
  · refine load_moved book scope ?_
    rw [instructions_of_mem_variants (unmarked_apply e h) hrelaid, instructions_apply e h]

def commented : Layout where
  margin i := if i = 0 then
    ⟨["# top".toList, [' ']], ['\t'], [' '], by decide +kernel, by decide +kernel, by decide +kernel⟩
  else .none
  below := [['#']]
  idle := by decide +kernel

/-- A file with a mark, carriage returns and comments. -/
theorem load_relaid_commented :
    "wait 1\n# rest\n- wait 2".toList.head? ≠ some '\ufeff' ∧
      "\ufeff" ++ withReturns (commented.apply "wait 1\n# rest\n- wait 2") =
        "\ufeff# top\r\n \r\n\twait 1 \r\n# rest\r\n- wait 2\r\n#" ∧
      load .standard .everything
          ("\ufeff" ++ withReturns (commented.apply "wait 1\n# rest\n- wait 2")) =
        [⟨1, "wait 1", 3⟩, ⟨2, "wait 2", 5⟩] := by
  have hunmarked : "wait 1\n# rest\n- wait 2".toList.head? ≠ some '\ufeff' := by decide
  have hload : (load .standard .everything "wait 1\n# rest\n- wait 2").map
      (Step.moved commented.place) = [⟨1, "wait 1", 3⟩, ⟨2, "wait 2", 5⟩] := by decide +kernel
  have hlaid : "\ufeff" ++ withReturns (commented.apply "wait 1\n# rest\n- wait 2") ∈
      variants (commented.apply "wait 1\n# rest\n- wait 2") := by simp [variants]
  exact ⟨hunmarked, by decide +kernel,
    (((load_relaid .standard .everything hunmarked).2.2.1 commented).1 _ hlaid).trans hload⟩

end StepFile

end Walkthrough
