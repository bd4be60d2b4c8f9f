import Mathlib.Data.List.Nodup
import Mathlib.Data.List.Perm.Basic
import Walkthrough.Command.Standard
import Walkthrough.Proofs.Pattern.Groups

namespace Walkthrough

namespace Pattern

theorem le_lastGroup {p : Pattern} {i : Nat} (h : i ∈ p.groups) : i ≤ p.lastGroup := by
  induction p with
  | empty | one | anchor => contradiction
  | seq p q ihp ihq | either p q ihp ihq =>
    obtain h | h := List.mem_append.mp h
    · exact Nat.le_trans (ihp h) (Nat.le_max_left _ _)
    · exact Nat.le_trans (ihq h) (Nat.le_max_right _ _)
  | many least most greedy p ih => exact ih h
  | group j p ih =>
    obtain rfl | h := List.mem_cons.mp h
    · exact Nat.le_max_left _ _
    · exact Nat.le_trans (ih h) (Nat.le_max_right _ _)

end Pattern

theorem Command.isSome_capture? (c : Command) (line : String) :
    (c.capture? line).isSome = c.fits line := by
  simp only [capture?, Option.isSome_map]
  rfl

theorem Command.fits_of_find? {c : Command} {line : String} {m : Pattern.Match}
    (h : c.pattern.find? line.toList = some m) : c.fits line = true := by
  unfold fits Pattern.occurs
  rw [h, Option.isSome_some]

theorem Command.groups_of_capture? {c : Command} {line : String} {args : Arguments}
    {m : Pattern.Match} (h : c.capture? line = some args)
    (hm : c.pattern.find? line.toList = some m) {i : Nat} (hi : i ∈ c.pattern.groups) :
    args.groups[i]? = some ((m.group? i).map String.ofList) := by
  unfold capture? at h
  rw [hm, Option.map_some, Option.some.injEq] at h
  have hlt : i < c.pattern.lastGroup + 1 := Nat.lt_succ_of_le (Pattern.le_lastGroup hi)
  rw [← h, List.getElem?_map, List.getElem?_range hlt, Option.map_some]

namespace Catalogue

theorem find?_eq_head? (catalogue : Catalogue) (line : String) :
    catalogue.find? line =
      (catalogue.filter (·.fits line)).head?.bind fun c => (c.capture? line).map (c, ·) := by
  induction catalogue with
  | nil => rfl
  | cons c rest ih =>
    rw [find?, List.findSome?_cons, List.filter_cons, ← Command.isSome_capture?]
    cases h : c.capture? line with
    | none =>
      rw [if_neg (by simp), ← ih]
      rfl
    | some args => simp [h]

theorem find?_eq_none_iff {catalogue : Catalogue} {line : String} :
    catalogue.find? line = none ↔ ∀ c ∈ catalogue, c.fits line = false := by
  simp only [find?, List.findSome?_eq_none_iff, Option.map_eq_none_iff,
    ← Command.isSome_capture?, Option.isSome_eq_false_iff, Option.isNone_iff_eq_none]

theorem knows_eq_isSome (catalogue : Catalogue) (line : String) :
    catalogue.knows line = (catalogue.find? line).isSome := by
  rw [Bool.eq_iff_iff, Option.isSome_iff_ne_none, Ne, find?_eq_none_iff]
  simp [knows]

theorem knows_eq_false_iff {catalogue : Catalogue} {line : String} :
    catalogue.knows line = false ↔ catalogue.find? line = none := by
  rw [knows_eq_isSome, Option.isSome_eq_false_iff, Option.isNone_iff_eq_none]

theorem mem_of_find? {catalogue : Catalogue} {line : String} {c : Command} {args : Arguments}
    (h : catalogue.find? line = some (c, args)) : c ∈ catalogue ∧ c.capture? line = some args := by
  obtain ⟨d, hd, hc⟩ := List.exists_of_findSome?_eq_some h
  obtain ⟨a, ha, he⟩ := Option.map_eq_some_iff.mp hc
  cases he
  exact ⟨hd, ha⟩

abbrev Spelling := List (List Char × List Char)

def spelling (rows : List (String × String × Effect)) : Spelling :=
  rows.map fun r => (r.1.toList, r.2.1.toList)

/-- The rows whose patterns can be read, by name. -/
def patterns (s : Spelling) : List (List Char × Pattern) :=
  s.filterMap fun r => (Pattern.parseChars ("(?i)".toList ++ r.2)).toOption.map (r.1, ·)

theorem ofText_toOption (name pattern : String) (effect : Effect) :
    (Command.ofText name pattern effect).toOption =
      (Pattern.parseChars ("(?i)".toList ++ pattern.toList)).toOption.map
        (⟨name, caseless pattern, ·, effect⟩) := by
  rw [Command.ofText, Pattern.parse, caseless, String.toList_append]
  cases Pattern.parseChars ("(?i)".toList ++ pattern.toList) <;> rfl

theorem patterns_standardRows : patterns (spelling standardRows) =
    standard.map fun c => (c.name.toList, c.pattern) := by
  simp only [patterns, spelling, standard, List.filterMap_map, List.map_filterMap]
  apply List.filterMap_congr
  intro r _
  simp only [Function.comp, ofText_toOption, Option.map_map]
  rfl

theorem forall₂_filterMap_toOption {f : α → Except ε β} {l : List α}
    (h : ∀ a ∈ l, (f a).toOption.isSome = true) :
    List.Forall₂ (fun a b => f a = .ok b) l (l.filterMap fun a => (f a).toOption) := by
  induction l with
  | nil => exact .nil
  | cons a l ih =>
    obtain ⟨ha, hl⟩ := List.forall_mem_cons.mp h
    cases hfa : f a with
    | error e => simp [hfa, Except.toOption] at ha
    | ok b => simpa [List.filterMap_cons, hfa, Except.toOption] using ih hl

theorem forall₂_standard (h : (patterns (spelling standardRows)).length = standardRows.length) :
    List.Forall₂ (fun r c => Command.ofText r.1 r.2.1 r.2.2 = .ok c) standardRows standard := by
  rw [patterns_standardRows, List.length_map] at h
  exact forall₂_filterMap_toOption (List.filterMap_length_eq_length.mp h)

theorem ofText_eq_ok {name pattern : String} {effect : Effect} {c : Command}
    (h : Command.ofText name pattern effect = .ok c) : c.name = name ∧ c.effect = effect := by
  unfold Command.ofText at h
  cases hp : Pattern.parse (caseless pattern) with
  | error e => simp [hp, Except.map] at h
  | ok p =>
    simp only [hp, Except.map, Except.ok.injEq] at h
    exact h ▸ ⟨rfl, rfl⟩

theorem ofText_of_mem {c : Command} (h : c ∈ standard) :
    ∃ r ∈ standardRows, Command.ofText r.1 r.2.1 r.2.2 = .ok c := by
  obtain ⟨r, hr, hc⟩ := List.mem_filterMap.mp h
  refine ⟨r, hr, ?_⟩
  cases hrow : Command.ofText r.1 r.2.1 r.2.2 with
  | error e => simp [hrow, Except.toOption] at hc
  | ok d => simpa [hrow, Except.toOption] using hc

theorem row_of_mem {c : Command} (h : c ∈ standard) :
    ∃ r ∈ standardRows, c.name = r.1 ∧ c.effect = r.2.2 := by
  obtain ⟨r, hr, hok⟩ := ofText_of_mem h
  exact ⟨r, hr, ofText_eq_ok hok⟩

theorem exists_of_row {name : String} (text : String) {effect : Effect} {p : Pattern}
    (hrow : (name, text, effect) ∈ standardRows)
    (hread : (Command.ofText name text effect).toOption.map (·.pattern) = some p) :
    ∃ c ∈ standard, c.name = name ∧ c.pattern = p ∧ c.effect = effect := by
  obtain ⟨c, hc, hpattern⟩ := Option.map_eq_some_iff.mp hread
  have hok : Command.ofText name text effect = .ok c := by
    cases hcommand : Command.ofText name text effect with
    | error e => simp [hcommand, Except.toOption] at hc
    | ok d => simpa [hcommand, Except.toOption] using hc
  obtain ⟨hname, heffect⟩ := ofText_eq_ok hok
  exact ⟨c, List.mem_filterMap.mpr ⟨_, hrow, hc⟩, hname, hpattern, heffect⟩

end Catalogue

end Walkthrough
