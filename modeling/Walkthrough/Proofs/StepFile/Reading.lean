import Mathlib.Data.List.Basic
import Walkthrough.Proofs.Text.Lines
import Walkthrough.Proofs.Text.Trimming
import Walkthrough.StepFile

namespace Walkthrough

theorem Scope.select_sublist (scope : Scope) (steps : List Step) :
    (scope.select steps).Sublist steps := by
  have hslice : (scope.slice steps).Sublist steps := by
    unfold slice
    split
    · exact (List.drop_sublist _ _).trans (List.take_sublist _ _)
    · exact List.Sublist.refl _
  have hsearch : (scope.search (scope.slice steps)).Sublist (scope.slice steps) := by
    unfold search
    split
    · exact List.Sublist.refl _
    · split
      · exact List.Sublist.refl _
      · exact List.filter_sublist
  exact hsearch.trans hslice

namespace StepFile

def numbered (k : Nat) (texts : List (Nat × String)) : List Step :=
  (texts.zipIdx k).map fun (w, n) => ⟨n, w.2, w.1⟩

theorem numbered_cons (k : Nat) (w : Nat × String) (texts : List (Nat × String)) :
    numbered k (w :: texts) = ⟨k, w.2, w.1⟩ :: numbered (k + 1) texts :=
  rfl

theorem map_text_numbered (k : Nat) (texts : List (Nat × String)) :
    (numbered k texts).map (·.text) = texts.map (·.2) := by
  induction texts generalizing k with
  | nil => rfl
  | cons w texts ih => rw [numbered_cons, List.map_cons, List.map_cons, ih]

theorem zipIdx_numbered (k : Nat) (texts : List (Nat × String)) :
    (numbered k texts).zipIdx k = (numbered k texts).map fun s => (s, s.number) := by
  induction texts generalizing k with
  | nil => rfl
  | cons w texts ih => rw [numbered_cons, List.zipIdx_cons, List.map_cons, ih]

theorem exists_mem_numbered {k : Nat} {texts : List (Nat × String)} {w : Nat × String}
    (h : w ∈ texts) : ∃ s ∈ numbered k texts, s.sourceLine = w.1 ∧ s.text = w.2 := by
  induction texts generalizing k with
  | nil => contradiction
  | cons v texts ih =>
    rw [numbered_cons]
    obtain rfl | h := List.mem_cons.mp h
    · exact ⟨_, List.mem_cons_self, rfl, rfl⟩
    · obtain ⟨s, hs, hw⟩ := ih h
      exact ⟨s, List.mem_cons_of_mem _ hs, hw⟩

theorem map_entry_numbered_inj {k : Nat} {texts texts' : List (Nat × String)} :
    (numbered k texts).map (fun s => (s.number, s.text)) =
      (numbered k texts').map (fun s => (s.number, s.text)) ↔
    texts.map (·.2) = texts'.map (·.2) := by
  have hentries : ∀ ws : List (Nat × String), (numbered k ws).map (fun s => (s.number, s.text)) =
      ((ws.map (·.2)).zipIdx k).map Prod.swap := by
    intro ws
    rw [numbered, List.map_map, List.zipIdx_map, List.map_map]
    rfl
  constructor
  · intro h
    have htexts := congrArg (List.map Prod.snd) h
    simp only [List.map_map] at htexts
    rw [← map_text_numbered k texts, ← map_text_numbered k texts']
    exact htexts
  · intro h
    rw [hentries, hentries, h]

theorem map_number_numbered (k : Nat) (texts : List (Nat × String)) :
    (numbered k texts).map (·.number) = List.range' k texts.length := by
  rw [← List.zipIdx_map_snd, numbered, List.map_map]
  rfl

theorem map_sourceLine_numbered (k : Nat) (texts : List (Nat × String)) :
    (numbered k texts).map (·.sourceLine) = texts.map (·.1) := by
  rw [numbered, List.map_map]
  calc (texts.zipIdx k).map (fun w => w.1.1)
      = ((texts.zipIdx k).map Prod.fst).map (·.1) := by rw [List.map_map]; rfl
    _ = texts.map (·.1) := by rw [List.zipIdx_map_fst]

theorem le_number {k : Nat} {texts : List (Nat × String)} {s : Step} (h : s ∈ numbered k texts) :
    k ≤ s.number := by
  obtain ⟨⟨w, n⟩, hw, rfl⟩ := List.mem_map.mp h
  exact List.le_snd_of_mem_zipIdx hw

theorem number_lt {k : Nat} {texts : List (Nat × String)} {s : Step} (h : s ∈ numbered k texts) :
    s.number < k + texts.length := by
  obtain ⟨⟨w, n⟩, hw, rfl⟩ := List.mem_map.mp h
  exact List.snd_lt_add_of_mem_zipIdx hw

theorem take_numbered (k m : Nat) (texts : List (Nat × String)) :
    (numbered k texts).take m = numbered k (texts.take m) := by
  induction texts generalizing k m with
  | nil => simp [numbered]
  | cons w texts ih =>
    cases m with
    | zero => rfl
    | succ m => rw [numbered_cons, List.take_succ_cons, List.take_succ_cons, numbered_cons, ih]

theorem take_eq_filter (k m : Nat) (texts : List (Nat × String)) :
    (numbered k texts).take m = (numbered k texts).filter (·.number < k + m) := by
  induction texts generalizing k m with
  | nil => simp [numbered]
  | cons w texts ih =>
    cases m with
    | zero =>
      rw [List.take_zero, eq_comm, List.filter_eq_nil_iff]
      intro s hs
      simpa using le_number hs
    | succ m =>
      rw [numbered_cons, List.take_succ_cons, ih, List.filter_cons_of_pos (by simp)]
      simp only [Nat.add_comm m 1, Nat.add_assoc]

theorem drop_eq_filter (k m : Nat) (texts : List (Nat × String)) :
    (numbered k texts).drop m = (numbered k texts).filter (k + m ≤ ·.number) := by
  induction texts generalizing k m with
  | nil => simp [numbered]
  | cons w texts ih =>
    cases m with
    | zero =>
      rw [List.drop_zero, eq_comm, List.filter_eq_self]
      intro s hs
      simpa using le_number hs
    | succ m =>
      rw [numbered_cons, List.drop_succ_cons, ih, List.filter_cons_of_neg (by simp)]
      simp only [Nat.add_comm m 1, Nat.add_assoc]

theorem withoutMark_of_head {text : String} (h : text.toList.head? ≠ some '\ufeff') :
    withoutMark text = text := by
  unfold withoutMark
  split
  · rename_i rest heq
    rw [heq] at h
    contradiction
  · rfl

def worded (book : Phrasebook) (is : List Instruction) : List (Nat × String) :=
  (is.map fun i => (i.sourceLine, book.canonical i.text)).filter fun w => !w.2.isEmpty

theorem steps_eq_numbered (book : Phrasebook) (text : String) :
    steps book text = numbered 1 (worded book (instructions text)) :=
  rfl

theorem load_everything (book : Phrasebook) (text : String) :
    load book .everything text = numbered 1 (worded book (instructions text)) :=
  rfl

theorem sourceLines_sublist (book : Phrasebook) (text : String) :
    ((steps book text).map (·.sourceLine)).Sublist
      (List.range' 1 (Text.lines (withoutMark text)).length) := by
  have hinstructions : ((instructions text).map (·.sourceLine)).Sublist
      (List.range' 1 (Text.lines (withoutMark text)).length) := by
    rw [← List.zipIdx_map_snd]
    unfold instructions
    exact (List.filter_sublist.map _).trans (by rw [List.map_map]; rfl)
  have hworded : ((worded book (instructions text)).map (·.1)).Sublist
      ((instructions text).map (·.sourceLine)) := by
    unfold worded
    exact (List.filter_sublist.map _).trans (by rw [List.map_map]; rfl)
  rw [steps_eq_numbered, map_sourceLine_numbered]
  exact hworded.trans hinstructions

theorem pairwise_load (book : Phrasebook) (scope : Scope) (text : String) :
    (load book scope text).Pairwise fun s s' =>
      s.number < s'.number ∧ s.sourceLine < s'.sourceLine := by
  have hnumbers : (steps book text).Pairwise fun s s' => s.number < s'.number := by
    have hmap : ((steps book text).map (·.number)).Pairwise (· < ·) := by
      rw [steps_eq_numbered, map_number_numbered]
      exact List.pairwise_lt_range'
    exact List.pairwise_map.mp hmap
  have hlines : (steps book text).Pairwise fun s s' => s.sourceLine < s'.sourceLine :=
    List.pairwise_map.mp (List.Pairwise.sublist (sourceLines_sublist book text) List.pairwise_lt_range')
  exact (hnumbers.and hlines).sublist (scope.select_sublist _)

theorem load_line {book : Phrasebook} {line : String} (hfeed : '\n' ∉ line.toList)
    (htrim : Text.Trimmed line.toList) {x : Char} (hx : line.toList.head? = some x) (hmark : x ≠ '\ufeff')
    (hcomment : x ≠ '#') (hstay : book.canonical line = line) :
    load book .everything line = [⟨1, line, 1⟩] := by
  have hne : line.toList ≠ [] := by
    intro hnil
    rw [hnil] at hx
    contradiction
  have hwhole : withoutMark line = line := by
    apply withoutMark_of_head
    rw [hx]
    simpa using hmark
  have hlines : Text.lines line = [line] := by
    unfold Text.lines
    rw [Text.linesFrom_of_not_mem hfeed, if_neg hne, List.map_singleton, String.ofList_toList]
  have hsays : saysSomething ⟨1, line⟩ = true := by
    unfold saysSomething
    obtain ⟨rest, hrest⟩ := List.head?_eq_some_iff.mp hx
    simp [hrest, hcomment]
  have hread : instructions line = [⟨1, line⟩] := by
    unfold instructions
    rw [hwhole, hlines, List.zipIdx_singleton, List.map_singleton]
    dsimp only
    rw [Text.trim_eq_self_iff.mpr htrim, List.filter_singleton, hsays]
    rfl
  have hsome : line.isEmpty = false := by
    rw [Bool.eq_false_iff]
    intro hempty
    exact hne (String.toList_eq_nil_iff.mpr (String.isEmpty_iff.mp hempty))
  rw [load_everything, hread]
  unfold worded
  rw [List.map_singleton, hstay, List.filter_singleton, hsome]
  rfl

end StepFile

end Walkthrough
