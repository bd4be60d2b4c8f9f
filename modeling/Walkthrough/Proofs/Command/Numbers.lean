import Walkthrough.Proofs.Command.Routing

namespace Walkthrough

namespace Text

/-- How many blocks of decimal digits begin in a text; `inside` tells whether there is a digit just
before it. -/
def digitBlocks (inside : Bool) : List Char → Nat
  | [] => 0
  | c :: rest =>
    if isDecimalDigit c then (if inside then 0 else 1) + digitBlocks true rest
    else digitBlocks false rest

/-- How many numbers a line has: blocks of decimal digits, each as long as it can be. -/
def numbersIn (line : String) : Nat :=
  digitBlocks false line.toList

theorem digitBlocks_append_of_plain {u : List Char} (hu : ∀ x ∈ u, isDecimalDigit x = false)
    (inside : Bool) (v : List Char) :
    digitBlocks inside (u ++ v) = digitBlocks (inside && u.isEmpty) v := by
  induction u generalizing inside with
  | nil => simp
  | cons x u ih =>
    obtain ⟨hx, hu⟩ := List.forall_mem_cons.mp hu
    have hrest : digitBlocks false (u ++ v) = digitBlocks false v := ih hu false
    simp [digitBlocks, hx, hrest]

theorem digitBlocks_append_of_digits {u : List Char} (hu : ∀ x ∈ u, isDecimalDigit x = true)
    (hne : u ≠ []) (inside : Bool) (v : List Char) :
    digitBlocks inside (u ++ v) = (if inside then 0 else 1) + digitBlocks true v := by
  have hgo : ∀ u : List Char, (∀ x ∈ u, isDecimalDigit x = true) →
      digitBlocks true (u ++ v) = digitBlocks true v := by
    intro u hu
    induction u with
    | nil => rfl
    | cons x u ih =>
      obtain ⟨hx, hu⟩ := List.forall_mem_cons.mp hu
      simp [digitBlocks, hx, ih hu]
  cases u with
  | nil => exact absurd rfl hne
  | cons x u =>
    obtain ⟨hx, hu⟩ := List.forall_mem_cons.mp hu
    simp [digitBlocks, hx, hgo u hu]

theorem not_digit_of_map_foldCase {u words : List Char}
    (hwords : ∀ x ∈ words, isDecimalDigit (foldCase x) = false)
    (hfold : u.map foldCase = words.map foldCase) : ∀ x ∈ u, isDecimalDigit x = false := by
  intro x hx
  have hmem : foldCase x ∈ words.map foldCase := hfold ▸ List.mem_map_of_mem hx
  obtain ⟨y, hy, hxy⟩ := List.mem_map.mp hmem
  have hfolded : isDecimalDigit (foldCase x) = false := hxy ▸ hwords y hy
  by_contra hdigit
  rw [foldCase_of_isDecimalDigit (by simpa using hdigit)] at hfolded
  exact hdigit hfolded

end Text

namespace Pattern

def spacedNumber (i : Nat) : Pattern :=
  seq (many 1 none true (one .blank)) (group i (many 1 none true (one .digit)))

def optionalNumber (i : Nat) : Pattern :=
  many 0 (some 1) true (spacedNumber i)

def numbers (is : List Nat) : Pattern :=
  is.foldr (fun i p => seq (optionalNumber i) p) (anchor .textEnd)

def numbered (words : List Char) (is : List Nat) : Pattern :=
  seq (anchor .textStart) (spelled words (numbers is))

theorem groups_numbers (is : List Nat) : (numbers is).groups = is := by
  induction is with
  | nil => rfl
  | cons i is ih =>
    have hcons : (numbers (i :: is)).groups = i :: (numbers is).groups := rfl
    rw [hcons, ih]

/-- A group that holds a part of the text with something in it. -/
def Holds (s : State) (i : Nat) : Prop :=
  ∃ c d w, s.2.lookup i = some (c, d) ∧ Reads c w d ∧ w ≠ []

theorem mem_runs_anchor {a : Anchor} {s t : State} (ht : t ∈ (anchor a).runs s) :
    a.holds s.1 = true ∧ t = s := by
  unfold runs at ht
  split at ht
  · rename_i ha
    exact ⟨ha, List.mem_singleton.mp ht⟩
  · contradiction

theorem mem_runs_spelled {words : List Char} {p : Pattern} {s t : State}
    (ht : t ∈ (spelled words p).runs s) :
    ∃ u v, Reads s.1 u v.1 ∧ u.map Text.foldCase = words.map Text.foldCase ∧ t ∈ p.runs v := by
  induction words generalizing s with
  | nil => exact ⟨[], s, rfl, rfl, ht⟩
  | cons c words ih =>
    obtain ⟨r, hr, ht⟩ := List.mem_flatMap.mp ht
    obtain ⟨x, hx, hc⟩ := leads_one_iff.mp ((runs_realizes (one (.letter c))).of_mem hr)
    obtain ⟨u, v, hu, hwords, ht⟩ := ih ht
    have hfold : Text.foldCase c = Text.foldCase x := by simpa [CharSet.accepts] using hc
    exact ⟨[x] ++ u, v, hx.append hu, by simp [hwords, hfold], ht⟩

theorem cut?_spacedNumber (i : Nat) : (spacedNumber i).cut? i =
    some (seq (many 1 none true (one .blank)) empty, many 1 none true (one .digit), empty) := by
  simp [spacedNumber, cut?]

theorem mem_runs_optionalNumber {i : Nat} {s t : State} (ht : t ∈ (optionalNumber i).runs s) :
    t = s ∨ Holds t i ∧ ∃ v w, Reads s.1 (v ++ w) t.1 ∧ v ≠ [] ∧ w ≠ [] ∧
      (∀ x ∈ v, Text.isDecimalDigit x = false) ∧ ∀ x ∈ w, Text.isDecimalDigit x = true := by
  have honce : (optionalNumber i).runs s = [s].flatMap (atMost (spacedNumber i).runs true (0 + 1)) :=
    rfl
  rw [honce, List.flatMap_singleton] at ht
  obtain rfl | ⟨u, hu, ht⟩ := mem_atMost_succ.mp ht
  · exact .inl rfl
  obtain rfl := List.mem_singleton.mp ht
  obtain ⟨c, d, ⟨c', hblank, rfl⟩, hdigit, rfl, hlookup⟩ :=
    mem_runs_of_cut? (cut?_spacedNumber i) (by simp [groups]) hu
  obtain ⟨v, hv, hvlen, -, hvall⟩ := leads_many_one_iff.mp hblank
  obtain ⟨w, hw, hwlen, -, hwall⟩ := leads_many_one_iff.mp hdigit
  have hwne : w ≠ [] := List.ne_nil_of_length_pos hwlen
  refine .inr ⟨⟨_, _, w, hlookup, hw, hwne⟩, v, w, hv.append hw, List.ne_nil_of_length_pos hvlen,
    hwne, fun x hx => ?_, hwall⟩
  exact Text.not_digit_of_isBlank (hvall x hx)

/-- Optional numbers read no more numbers than there are groups, and as many only if each group
holds one. What they read does not go on with a number from before. -/
theorem mem_runs_numbers {is : List Nat} (hnodup : is.Nodup) {s t : State}
    (ht : t ∈ (numbers is).runs s) :
    ∃ u, Reads s.1 u t.1 ∧ t.1.after = [] ∧
      (∀ inside, Text.digitBlocks inside u = Text.digitBlocks false u) ∧
      Text.digitBlocks false u ≤ is.length ∧
      (is.length ≤ Text.digitBlocks false u → ∀ i ∈ is, Holds t i) := by
  induction is generalizing s with
  | nil =>
    obtain ⟨hend, rfl⟩ := mem_runs_anchor ht
    exact ⟨[], rfl, List.isEmpty_iff.mp hend, fun _ => rfl, Nat.le_refl 0, fun _ => nofun⟩
  | cons i is ih =>
    obtain ⟨hi, hrest⟩ := List.nodup_cons.mp hnodup
    obtain ⟨r, hr, ht⟩ := List.mem_flatMap.mp ht
    obtain ⟨u, hu, hend, hsame, hmost, hall⟩ := ih hrest ht
    obtain rfl | ⟨hholds, v, w, hvw, hv, hw, hvplain, hwdigit⟩ := mem_runs_optionalNumber hr
    · refine ⟨u, hu, hend, hsame, Nat.le_succ_of_le hmost, fun hleast => ?_⟩
      rw [List.length_cons] at hleast
      omega
    have hblocks (inside : Bool) :
        Text.digitBlocks inside (v ++ w ++ u) = Text.digitBlocks false u + 1 := by
      have hempty : v.isEmpty = false := by simpa using hv
      rw [List.append_assoc, Text.digitBlocks_append_of_plain hvplain, hempty, Bool.and_false,
        Text.digitBlocks_append_of_digits hwdigit hw, hsame true]
      exact Nat.add_comm _ _
    refine ⟨v ++ w ++ u, hvw.append hu, hend, fun inside => ?_, ?_, fun hleast => ?_⟩
    · rw [hblocks, hblocks]
    · rw [hblocks]
      exact Nat.succ_le_succ hmost
    · rw [hblocks, List.length_cons] at hleast
      obtain ⟨c, d, w', hlookup, hread⟩ := hholds
      have hkept : t.2.lookup i = r.2.lookup i := by
        refine lookup_runs (p := numbers is) ?_ r t ht
        rwa [groups_numbers]
      intro j hj
      obtain rfl | hj := List.mem_cons.mp hj
      · exact ⟨c, d, w', hkept.trans hlookup, hread⟩
      · exact hall (Nat.le_of_succ_le_succ hleast) j hj

theorem holds_of_numbered {words : List Char} {is : List Nat}
    (hwords : ∀ x ∈ words, Text.isDecimalDigit (Text.foldCase x) = false) (hnodup : is.Nodup)
    {text : List Char} {t : State} (ht : t ∈ (numbered words is).runs (.start text, []))
    (hnumbers : is.length ≤ Text.digitBlocks false text) : ∀ i ∈ is, Holds t i := by
  obtain ⟨s, hs, ht⟩ := List.mem_flatMap.mp ht
  obtain ⟨-, rfl⟩ := mem_runs_anchor hs
  obtain ⟨u, v, hu, hfold, ht⟩ := mem_runs_spelled ht
  obtain ⟨w, hw, hend, -, -, hall⟩ := mem_runs_numbers hnodup ht
  have htext : text = u ++ w := by
    have hafter : text = u ++ v.1.after := hu.after_eq
    rw [hafter, hw.after_eq, hend, List.append_nil]
  -- all numbers of the text stand after the words
  rw [htext, Text.digitBlocks_append_of_plain (Text.not_digit_of_map_foldCase hwords hfold),
    Bool.false_and] at hnumbers
  exact hall hnumbers

end Pattern

namespace Command

open Pattern

variable {c : Command} {words : List Char} {is : List Nat} {line : String} {args : Arguments}

/-- Where a line has as many numbers as the command has groups for them, no argument is missing. -/
theorem isSome_get?_of_numbered (hpattern : c.pattern = numbered words is)
    (hwords : ∀ x ∈ words, Text.isDecimalDigit (Text.foldCase x) = false) (hnodup : is.Nodup)
    (hargs : c.capture? line = some args) (hnumbers : is.length ≤ Text.numbersIn line) :
    ∀ i ∈ is, i ≠ 0 → (args.get? i).isSome := by
  intro i hi hzero
  obtain ⟨m, hm, -⟩ := Option.map_eq_some_iff.mp hargs
  have hgroup : args.groups[i]? = some ((m.group? i).map String.ofList) := by
    refine groups_of_capture? hargs hm ?_
    have hgroups : (numbered words is).groups = is :=
      (groups_spelled words _).trans (groups_numbers is)
    rwa [hpattern, hgroups]
  obtain ⟨t, ht, rfl⟩ := mem_runs_of_find? (by rw [hpattern]; rfl) hm
  rw [hpattern] at ht
  obtain ⟨d, e, u, hlookup, hu, hne⟩ := holds_of_numbered hwords hnodup ht hnumbers i hi
  have htext : (Match.mk (.start line.toList) t.1 t.2).group? i = some u :=
    Match.group?_of_lookup hzero hlookup hu
  unfold Arguments.get?
  rw [List.getD_eq_getElem?_getD, hgroup, htext]
  simpa using hne

end Command

end Walkthrough
