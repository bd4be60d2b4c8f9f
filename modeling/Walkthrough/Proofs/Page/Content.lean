import Walkthrough.Page.Query
import Walkthrough.Proofs.Page.Ancestors
import Walkthrough.Proofs.Page.Wording
import Walkthrough.Proofs.Text.Blank

namespace Walkthrough

namespace Page

/-- Where a part stands in the joined text, no letter touches it. -/
theorem exists_intercalate_eq {part : String} {parts : List String} (h : part ∈ parts) :
    ∃ a b, " ".intercalate parts = a ++ part ++ b ∧
      Text.meetsCased a.toList.reverse = false ∧ Text.meetsCased b.toList = false := by
  have hblank (rest : List Char) : Text.meetsCased (' ' :: rest) = false :=
    Text.meetsCased_cons_of_isBlank (by decide) rest
  have hnone : Text.meetsCased [] = false := rfl
  induction parts with
  | nil => exact absurd h List.not_mem_nil
  | cons first rest ih =>
    cases rest with
    | nil =>
      obtain rfl := List.mem_singleton.mp h
      exact ⟨"", "", by simp, hnone, hnone⟩
    | cons second rest =>
      rw [String.intercalate_cons_cons]
      rcases List.mem_cons.mp h with rfl | hrest
      · refine ⟨"", " " ++ " ".intercalate (second :: rest), by simp [String.append_assoc], hnone, ?_⟩
        rw [String.toList_append]
        exact hblank _
      · obtain ⟨a, b, hjoined, ha, hb⟩ := ih hrest
        refine ⟨first ++ " " ++ a, b, by simp [hjoined, String.append_assoc], ?_, hb⟩
        have hback : (first ++ " " ++ a).toList.reverse =
            a.toList.reverse ++ ' ' :: first.toList.reverse := by
          simp
        rw [hback, Text.meetsCased_append (hblank _), ha]

variable {parts : List String}

theorem spaced_singleton (part : String) : spaced [part] = part := by
  unfold spaced
  cases h : part.isEmpty with
  | true => simp [String.isEmpty_iff.mp h]
  | false => simp [h]

theorem spaced_eq_empty_iff : spaced parts = "" ↔ parts.filter (!·.isEmpty) = [] := by
  constructor
  · intro hempty
    rw [List.eq_nil_iff_forall_not_mem]
    intro part hpart
    obtain ⟨a, b, hjoined, -, -⟩ := exists_intercalate_eq hpart
    obtain ⟨⟨-, hnone⟩, -⟩ : (a = "" ∧ part = "") ∧ b = "" := by
      rw [← String.append_eq_empty_iff, ← String.append_eq_empty_iff, ← hjoined]
      exact hempty
    simpa [hnone] using (List.mem_filter.mp hpart).2
  · intro hnone
    rw [spaced, hnone, String.intercalate_nil]

theorem spaced_append (parts parts' : List String) :
    spaced (parts ++ parts') = spaced [spaced parts, spaced parts'] := by
  have happend : spaced (parts ++ parts') =
      " ".intercalate (parts.filter (!·.isEmpty) ++ parts'.filter (!·.isEmpty)) := by
    rw [spaced, List.filter_append]
  rw [happend]
  by_cases hnone : parts.filter (!·.isEmpty) = []
  · rw [hnone, List.nil_append, spaced_eq_empty_iff.mpr hnone]
    exact (spaced_singleton (spaced parts')).symm
  by_cases hnone' : parts'.filter (!·.isEmpty) = []
  · have hlast (part : String) : spaced [part, ""] = spaced [part] := by
      simp [spaced, List.filter_cons]
    rw [hnone', List.append_nil, spaced_eq_empty_iff.mpr hnone', hlast, spaced_singleton, spaced]
  · have hsome : (spaced parts).isEmpty = false := by simpa [spaced_eq_empty_iff] using hnone
    have hsome' : (spaced parts').isEmpty = false := by simpa [spaced_eq_empty_iff] using hnone'
    have hboth : spaced [spaced parts, spaced parts'] = spaced parts ++ " " ++ spaced parts' := by
      rw [spaced]
      simp [hsome, hsome', String.intercalate_cons_cons]
    rw [String.intercalate_append_of_ne_nil hnone hnone', hboth]
    rfl

theorem spaced_cons (part : String) (parts : List String) :
    spaced (part :: parts) = spaced [part, spaced parts] := by
  have happend := spaced_append [part] parts
  rwa [spaced_singleton] at happend

theorem spaced_flatten (rows : List (List String)) :
    spaced (rows.map spaced) = spaced rows.flatten := by
  induction rows with
  | nil => rfl
  | cons row rows ih =>
    rw [List.map_cons, List.flatten_cons, spaced_cons, ih, ← spaced_append]

end Page

namespace Wording

variable {w : Wording}

theorem not_fits_empty (w : Wording) : w.fits "" = false := by
  rw [Bool.eq_false_iff]
  intro h
  obtain ⟨needle, hneedle, hinfix⟩ := fits_iff.mp h
  have hempty : needle.toList = [] := List.infix_nil.mp hinfix
  have hsome := (List.mem_filter.mp hneedle).2
  rw [String.toList_eq_nil_iff] at hempty
  simp [hempty] at hsome

theorem fits_spaced {part : String} {parts : List String} (hpart : part ∈ parts)
    (h : w.fits part = true) : w.fits (Page.spaced parts) = true := by
  have hsome : part.isEmpty = false := by
    rw [Bool.eq_false_iff]
    intro hempty
    rw [String.isEmpty_iff.mp hempty, not_fits_empty] at h
    contradiction
  have hkept : part ∈ parts.filter (!·.isEmpty) := List.mem_filter.mpr ⟨hpart, by simp [hsome]⟩
  obtain ⟨a, b, hjoined, ha, hb⟩ := Page.exists_intercalate_eq hkept
  obtain ⟨needle, hneedle, hinfix⟩ := fits_iff.mp h
  unfold Page.spaced
  rw [hjoined]
  exact fits_iff.mpr ⟨needle, hneedle,
    hinfix.trans (Text.lowercase_isInfix (Text.sigmasKept_of_apart ha hb _))⟩

theorem trimmed_of_mem_needles {needle : String} (h : needle ∈ w.needles) :
    Text.Trimmed needle.toList ∧ needle.toList ≠ [] := by
  obtain ⟨hmem, hsome⟩ := List.mem_filter.mp h
  obtain ⟨raw, -, rfl⟩ := List.mem_map.mp hmem
  refine ⟨?_, fun hempty => ?_⟩
  · unfold Text.lowercase Text.trim
    rw [String.toList_ofList, String.toList_ofList]
    exact Text.trimmed_lowerFrom (Text.trimmed_trimChars _) []
  · rw [String.toList_eq_nil_iff] at hempty
    simp [hempty] at hsome

theorem fits_trim (w : Wording) (text : String) : w.fits (Text.trim text) = w.fits text := by
  rw [Bool.eq_iff_iff, fits_iff, fits_iff]
  refine exists_congr fun needle => and_congr_right fun hneedle => ?_
  obtain ⟨left, right, hleft, hright, htext⟩ := Text.exists_pad text.toList
  have hlower : (Text.lowercase text).toList =
      left ++ (Text.lowercase (Text.trim text)).toList ++ right := by
    unfold Text.lowercase Text.trim
    rw [String.toList_ofList, String.toList_ofList, String.toList_ofList,
      ← Text.lowerFrom_pad hleft hright, ← htext]
  obtain ⟨htrimmed, hne⟩ := trimmed_of_mem_needles hneedle
  rw [hlower]
  constructor
  · intro h
    exact h.trans ⟨left, right, rfl⟩
  · exact htrimmed.isInfix_of_pad hne hleft hright

end Wording

namespace Page

variable {p : Page} {i j : Nat}

theorem mem_children_iff : j ∈ p.children i ↔ p.IsParent i j := by
  unfold children indices
  rw [List.mem_filter, List.mem_range, beq_iff_eq]
  exact and_iff_right_of_imp IsParent.child_lt

section Depth

variable (within : Nat → Nat → α) (tell : Nat → List α → α)
  (hwithin : ∀ n i, within (n + 1) i = tell i ((p.children i).map (within n)))
include hwithin

theorem IsForest.within_eq (h : p.IsForest) {n m : Nat} (hi : i < p.size)
    (hn : p.size ≤ n + (p.ancestors i).length) (hm : p.size ≤ m + (p.ancestors i).length) :
    within n i = within m i := by
  have hbound : (p.ancestors i).length < p.size := h.length_ancestorsWithin hi p.size
  induction n generalizing i m with
  | zero => omega
  | succ n ih =>
    obtain ⟨m, rfl⟩ : ∃ k, m = k + 1 := Nat.exists_eq_succ_of_ne_zero (by omega)
    rw [hwithin, hwithin]
    refine congrArg (tell i) (List.map_congr_left fun j hj => ?_)
    have hparent : p.IsParent i j := mem_children_iff.mp hj
    have hdeeper := h.length_ancestors hparent
    exact ih hparent.child_lt (by omega) (by omega)
      (h.length_ancestorsWithin hparent.child_lt p.size)

/-- The number of elements is depth enough: the bound can be left out. -/
theorem IsForest.unfolds (h : p.IsForest) (hsize : 0 < p.size) (i : Nat) :
    within p.size i = tell i ((p.children i).map (within p.size)) := by
  obtain ⟨n, hn⟩ := Nat.exists_eq_succ_of_ne_zero (Nat.ne_of_gt hsize)
  conv_lhs => rw [hn, hwithin]
  refine congrArg (tell i) (List.map_congr_left fun j hj => ?_)
  have hparent : p.IsParent i j := mem_children_iff.mp hj
  have hdeeper := h.length_ancestors hparent
  exact h.within_eq within tell hwithin hparent.child_lt (by omega) (by omega)

end Depth

theorem IsForest.textContent_eq (h : p.IsForest) (i : Nat) :
    p.textContent i = spaced (p.ownText i :: (p.children i).map p.textContent) := by
  obtain hsize | hsize := Nat.eq_zero_or_pos p.size
  · have hnone : p.element? i = none := by
      unfold element?
      rw [List.length_eq_zero_iff.mp hsize]
      rfl
    simp [textContent, textWithin, children, indices, hsize, ownText, hnone, spaced]
  · exact h.unfolds p.textWithin (fun i texts => spaced (p.ownText i :: texts)) (fun _ _ => rfl) hsize i

variable {w : Wording}

theorem IsForest.fits_parent (h : p.IsForest) (hij : p.IsParent i j)
    (hj : w.fits (p.textContent j) = true) : w.fits (p.textContent i) = true := by
  rw [h.textContent_eq i]
  have hpart : p.textContent j ∈ (p.children i).map p.textContent :=
    List.mem_map_of_mem (mem_children_iff.mpr hij)
  exact Wording.fits_spaced (List.mem_cons_of_mem _ hpart) hj

theorem IsForest.fits_above (h : p.IsForest) (hij : Relation.ReflTransGen p.IsParent i j)
    (hj : w.fits (p.textContent j) = true) : w.fits (p.textContent i) = true := by
  induction hij using Relation.ReflTransGen.head_induction_on with
  | refl => exact hj
  | head hparent _ ih => exact h.fits_parent hparent ih

theorem IsForest.fits_own (h : p.IsForest) {e : Element} (he : p.element? i = some e)
    (hfits : w.fits e.text = true) : w.fits (p.textContent i) = true := by
  rw [h.textContent_eq i]
  refine Wording.fits_spaced List.mem_cons_self ?_
  unfold ownText
  rw [he]
  dsimp only
  rw [w.fits_trim, hfits]

end Page

end Walkthrough
