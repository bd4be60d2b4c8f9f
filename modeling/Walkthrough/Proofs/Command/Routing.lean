import Mathlib.Data.List.Permutation
import Walkthrough.Proofs.Command.Catalogue
import Walkthrough.Proofs.Command.Phases

namespace Walkthrough.Catalogue

open Pattern

/-- What routing needs of the patterns of a catalogue, by name: names are distinct, the marker
comes before the heading, every pattern is for a whole line, the marker and the heading are what
they should be, and no other two patterns match the same line. -/
def orderly (marker heading : List Char) (rows : List (List Char × Pattern)) : Bool :=
  decide (rows.map (·.1)).Nodup &&
  [marker, heading].isSublist (rows.map (·.1)) &&
  rows.all (fun r => r.2.opens && r.2.closes && (r.1 != marker || r.2.isMarker) &&
    (r.1 != heading || r.2 == phaseHeading)) &&
  Track.separated 40 (rows.map fun r => (if r.1 = heading then marker else r.1, [r.2]))

set_option maxRecDepth 10000 in
theorem patterns_orderly : (patterns (spelling standardRows)).length = standardRows.length ∧
    orderly "section marker".toList "phase heading".toList (patterns (spelling standardRows)) =
      true := by
  simp only [spelling, standardRows, List.map_cons, List.map_nil]
  repeat rw [String.toList_ofList]
  decide +kernel

theorem standard_names : standard.map (·.name) = standardRows.map (·.1) := by
  have h : List.Forall₂ (· = ·) (standard.map (·.name)) (standardRows.map (·.1)) := by
    rw [List.forall₂_map_left_iff, List.forall₂_map_right_iff]
    exact (forall₂_standard patterns_orderly.1).flip.imp fun c r h => (ofText_eq_ok h).1
  rwa [List.forall₂_eq_eq_eq] at h

theorem standard_orderly : orderly "section marker".toList "phase heading".toList
    (standard.map fun c => (c.name.toList, c.pattern)) = true :=
  patterns_standardRows ▸ patterns_orderly.2

theorem nodup_names : (standard.map (·.name)).Nodup := by
  have h := standard_orderly
  simp only [orderly, Bool.and_eq_true, decide_eq_true_eq, List.map_map] at h
  exact List.Nodup.of_map String.toList (by simpa [Function.comp_def] using h.1.1.1)

theorem marker_before_heading :
    ["section marker", "phase heading"].Sublist (standard.map (·.name)) := by
  have h := standard_orderly
  simp only [orderly, Bool.and_eq_true, List.isSublist_iff_sublist, List.map_map] at h
  have h' := h.1.1.2.map String.ofList
  simpa [Function.comp_def] using h'

theorem eq_of_name {c d : Command} (hc : c ∈ standard) (hd : d ∈ standard) (h : c.name = d.name) :
    c = d :=
  List.inj_on_of_nodup_map nodup_names hc hd h

theorem pattern_of_mem {c : Command} (hc : c ∈ standard) :
    c.pattern.opens = true ∧ c.pattern.closes = true ∧
      (c.name = "section marker" → c.pattern.isMarker = true) ∧
      (c.name = "phase heading" → c.pattern = phaseHeading) := by
  have h := standard_orderly
  simp only [orderly, Bool.and_eq_true, Bool.or_eq_true, List.all_eq_true, List.mem_map,
    forall_exists_index, and_imp, forall_apply_eq_imp_iff₂, bne_iff_ne, beq_iff_eq, ne_eq,
    String.toList_inj] at h
  obtain ⟨⟨⟨ho, he⟩, hm⟩, hh⟩ := h.1.2 c hc
  exact ⟨ho, he, fun hn => hm.resolve_left (not_not.mpr hn),
    fun hn => hh.resolve_left (not_not.mpr hn)⟩

theorem fits_iff {c : Command} (hc : c ∈ standard) (line : String) :
    c.fits line = true ↔ ∃ d, c.pattern.Leads (.start line.toList) d ∧ d.after = [] :=
  occurs_iff_of_whole (pattern_of_mem hc).1 (pattern_of_mem hc).2.1 line.toList

/-- Commands that fit the same line have the same name, where the heading of a phase goes by the
name of the marker. -/
theorem name_of_fits {c d : Command} (hc : c ∈ standard) (hd : d ∈ standard) {line : String}
    (hcl : c.fits line = true) (hdl : d.fits line = true) :
    (if c.name = "phase heading" then "section marker" else c.name) =
      if d.name = "phase heading" then "section marker" else d.name := by
  have h := standard_orderly
  simp only [orderly, Bool.and_eq_true, List.map_map] at h
  have hmem : ∀ c ∈ standard, ((if c.name.toList = "phase heading".toList then
      "section marker".toList else c.name.toList, [c.pattern]) : Track (List Char)) ∈
      standard.map ((fun r => (if r.1 = "phase heading".toList then "section marker".toList else r.1,
        [r.2])) ∘ fun c => (c.name.toList, c.pattern)) := fun c hc =>
    List.mem_map_of_mem hc
  obtain ⟨e, he, hee⟩ := (fits_iff hc line).mp hcl
  obtain ⟨f, hf, hfe⟩ := (fits_iff hd line).mp hdl
  have := Track.eq_of_separated h.2 (hmem c hc) (hmem d hd)
    ⟨e, leads_iff_through_singleton.mp he, hee⟩ ⟨f, leads_iff_through_singleton.mp hf, hfe⟩
  simp only [String.toList_inj] at this
  split_ifs at this ⊢
  · rfl
  all_goals exact String.toList_inj.mp this

theorem find?_of_fits {c : Command} (hc : c ∈ standard) (hmarker : c.name ≠ "section marker")
    (hheading : c.name ≠ "phase heading") {line : String} (hfit : c.fits line = true) :
    standard.find? line = (c.capture? line).map (c, ·) := by
  have hone : ∀ d ∈ standard.filter (·.fits line), d = c := by
    intro d hd
    obtain ⟨hd, hdfit⟩ := List.mem_filter.mp hd
    have hname := name_of_fits hc hd hfit hdfit
    rw [if_neg hheading] at hname
    split_ifs at hname
    · exact absurd hname hmarker
    · exact (eq_of_name hc hd hname).symm
  rw [find?_eq_head?]
  cases hfilter : standard.filter (·.fits line) with
  | nil =>
    have hmem : c ∈ standard.filter (·.fits line) := List.mem_filter.mpr ⟨hc, hfit⟩
    rw [hfilter] at hmem
    contradiction
  | cons d rest =>
    obtain rfl : d = c := hone d (by rw [hfilter]; exact List.mem_cons_self)
    rfl

theorem exists_find?_of_fits {c : Command} (hc : c ∈ standard) (hmarker : c.name ≠ "section marker")
    (hheading : c.name ≠ "phase heading") {line : String} (hfit : c.fits line = true) :
    ∃ args, c.capture? line = some args ∧ standard.find? line = some (c, args) := by
  obtain ⟨args, hargs⟩ := Option.isSome_iff_exists.mp ((c.isSome_capture? _).trans hfit)
  refine ⟨args, hargs, ?_⟩
  rw [find?_of_fits hc hmarker hheading hfit, hargs, Option.map_some]

theorem exists_find?_of_row {name line : String} (text : String) {effect : Effect}
    (hrow : (name, text, effect) ∈ standardRows)
    (hfit : (Command.ofText name text effect).toOption.any (·.fits line))
    (hmarker : name ≠ "section marker") (hheading : name ≠ "phase heading") :
    ∃ command args, standard.find? line = some (command, args) ∧ command.name = name ∧
      command.effect = effect := by
  obtain ⟨d, hread, hd⟩ := (Option.any_eq_true _ _).mp hfit
  have hpattern : (Command.ofText name text effect).toOption.map (·.pattern) = some d.pattern := by
    rw [hread, Option.map_some]
  obtain ⟨c, hc, hname, hpattern, heffect⟩ := exists_of_row text hrow hpattern
  have hcfit : c.fits line = true := by
    unfold Command.fits
    rw [hpattern]
    exact hd
  obtain ⟨args, -, hfind⟩ := exists_find?_of_fits hc (hname ▸ hmarker) (hname ▸ hheading) hcfit
  exact ⟨c, args, hfind, hname, heffect⟩

theorem exists_marker : ∃ c ∈ standard, c.name = "section marker" :=
  List.mem_map.mp (marker_before_heading.subset (by simp))

theorem exists_heading : ∃ c ∈ standard, c.name = "phase heading" :=
  List.mem_map.mp (marker_before_heading.subset (by simp))

/-- Two commands that fit the same line are the marker and the heading. -/
theorem isMarkedPhase_of_fits {c d : Command} (hc : c ∈ standard) (hd : d ∈ standard)
    {line : String} (hcl : c.fits line = true) (hdl : d.fits line = true) (hne : c ≠ d) :
    IsMarkedPhase line := by
  have hname := name_of_fits hc hd hcl hdl
  have hpair : ∀ {m h : Command}, m ∈ standard → h ∈ standard → m.fits line = true →
      h.fits line = true → m.name = "section marker" → h.name = "phase heading" →
      IsMarkedPhase line := by
    intro m h hm hh hml hhl hmn hhn
    have hlead := (fits_iff hh line).mp hhl
    rw [(pattern_of_mem hh).2.2.2 hhn] at hlead
    exact (leads_isMarker_iff ((pattern_of_mem hm).2.2.1 hmn) hlead).mp ((fits_iff hm line).mp hml)
  split_ifs at hname with hch hdh hdh
  · exact absurd (eq_of_name hc hd (hch.trans hdh.symm)) hne
  · exact hpair hd hc hdl hcl hname.symm hch
  · exact hpair hc hd hcl hdl hname hdh
  · exact absurd (eq_of_name hc hd hname) hne

theorem fits_of_isMarkedPhase {line : String} (h : IsMarkedPhase line) {c : Command}
    (hc : c ∈ standard) :
    c.fits line = true ↔ c.name = "section marker" ∨ c.name = "phase heading" := by
  have hheading : ∀ {d : Command}, d ∈ standard → d.name = "phase heading" →
      d.fits line = true := by
    intro d hd hn
    rw [fits_iff hd, (pattern_of_mem hd).2.2.2 hn]
    exact (leads_of_isMarkedPhase h).1
  constructor
  · intro hcl
    obtain ⟨d, hd, hn⟩ := exists_heading
    have hname := name_of_fits hc hd hcl (hheading hd hn)
    rw [if_pos hn] at hname
    split_ifs at hname with hch
    exacts [.inr hch, .inl hname]
  · intro h
    obtain hn | hn := h
    · exact (fits_iff hc line).mpr ((leads_isMarker_iff ((pattern_of_mem hc).2.2.1 hn)
        (leads_of_isMarkedPhase h).1).mpr h)
    · exact hheading hc hn

theorem filter_fits_of_not_markedPhase {line : String} (h : ¬ IsMarkedPhase line) :
    (standard.filter (·.fits line)).length ≤ 1 := by
  have hnodup : (standard.filter (·.fits line)).Nodup := (List.Nodup.of_map _ nodup_names).filter _
  cases hl : standard.filter (·.fits line) with
  | nil => simp
  | cons c rest =>
    cases rest with
    | nil => simp
    | cons d rest =>
      have hmem : ∀ e ∈ [c, d], e ∈ standard ∧ e.fits line = true := by
        intro e he
        have hm : e ∈ standard.filter (·.fits line) := by
          rw [hl]
          exact List.mem_append_left rest he
        exact List.mem_filter.mp hm
      refine absurd (isMarkedPhase_of_fits (hmem c (by simp)).1 (hmem d (by simp)).1
        (hmem c (by simp)).2 (hmem d (by simp)).2 ?_) h
      rw [hl] at hnodup
      simp only [List.nodup_cons, List.mem_cons, not_or] at hnodup
      exact hnodup.1.1

theorem not_sublist_swap {l : List String} (hl : l.Nodup) {a b : String}
    (hab : [a, b].Sublist l) : ¬ [b, a].Sublist l := by
  induction l with
  | nil => simp
  | cons x l ih =>
    obtain ⟨hx, hl⟩ := List.nodup_cons.mp hl
    intro hba
    cases hab with
    | cons _ hab =>
      cases hba with
      | cons _ hba => exact ih hl hab hba
      | cons_cons _ hba => exact hx (hab.subset (by simp))
    | cons_cons _ hab =>
      cases hba with
      | cons _ hba => exact hx (hba.subset (by simp))
      | cons_cons _ hba => exact hx (hab.subset (by simp))

/-- In every order that keeps the marker before the heading, these two and no others fit. -/
theorem filter_fits_of_markedPhase {line : String} (h : IsMarkedPhase line) {rows : Catalogue}
    (hp : rows.Perm standard)
    (ho : ["section marker", "phase heading"].Sublist (rows.map (·.name))) :
    (rows.filter (·.fits line)).map (·.name) = ["section marker", "phase heading"] := by
  have hnodup : (rows.map (·.name)).Nodup := (hp.map _).nodup_iff.mpr nodup_names
  have hsub : ((rows.filter (·.fits line)).map (·.name)).Sublist (rows.map (·.name)) :=
    List.filter_sublist.map _
  have hmem : ∀ name, name ∈ (rows.filter (·.fits line)).map (·.name) ↔
      name ∈ ["section marker", "phase heading"] := by
    intro name
    simp only [List.mem_map, List.mem_filter, hp.mem_iff, List.mem_cons, List.not_mem_nil, or_false]
    constructor
    · intro h
      obtain ⟨c, ⟨hc, hcl⟩, rfl⟩ := h
      exact (fits_of_isMarkedPhase h hc).mp hcl
    · intro hn
      obtain ⟨c, hc, rfl⟩ : ∃ c ∈ standard, c.name = name := by
        obtain rfl | rfl := hn
        exacts [exists_marker, exists_heading]
      exact ⟨c, ⟨hc, (fits_of_isMarkedPhase h hc).mpr hn⟩, rfl⟩
  have hperm := (List.perm_ext_iff_of_nodup (hsub.nodup hnodup) (by decide)).mpr hmem
  apply (List.perm_pair.mp hperm).resolve_right
  intro hswap
  exact not_sublist_swap hnodup ho (hswap ▸ hsub)

theorem eq_of_map_name {l l' : Catalogue} (hl : ∀ c ∈ l, c ∈ standard)
    (hl' : ∀ c ∈ l', c ∈ standard) (h : l.map (·.name) = l'.map (·.name)) : l = l' := by
  induction l generalizing l' with
  | nil => exact (List.map_eq_nil_iff.mp h.symm).symm
  | cons c l ih =>
    obtain ⟨c', l', rfl, hn, ht⟩ := List.map_eq_cons_iff.mp h.symm
    rw [eq_of_name (hl c (by simp)) (hl' c' (by simp)) hn.symm,
      ih (fun d hd => hl d (by simp [hd])) (fun d hd => hl' d (by simp [hd])) ht.symm]

theorem find?_of_perm {rows : Catalogue} (hp : rows.Perm standard)
    (ho : ["section marker", "phase heading"].Sublist (rows.map (·.name))) (line : String) :
    rows.find? line = standard.find? line := by
  have hpf : (rows.filter (·.fits line)).Perm (standard.filter (·.fits line)) := hp.filter _
  suffices h : rows.filter (·.fits line) = standard.filter (·.fits line) by
    rw [find?_eq_head?, find?_eq_head?, h]
  by_cases h : IsMarkedPhase line
  · refine eq_of_map_name (fun c hc => hp.mem_iff.mp (List.mem_filter.mp hc).1)
      (fun c hc => (List.mem_filter.mp hc).1) ?_
    rw [filter_fits_of_markedPhase h hp ho,
      filter_fits_of_markedPhase h (.refl _) marker_before_heading]
  · have hlen := filter_fits_of_not_markedPhase h
    cases hs : standard.filter (·.fits line) with
    | nil =>
      rw [hs] at hpf
      exact hpf.eq_nil
    | cons c rest =>
      rw [hs] at hlen hpf
      obtain rfl : rest = [] := by simpa using hlen
      exact List.perm_singleton.mp hpf

/-- At most one command fits a line, but for a phase with its number and one mark, and for any
order of the commands in which the section marker stays before the phase heading a line is routed
to the same command with the same arguments. -/
theorem order_of_commands (line : String) :
    standard.map (·.name) = standardRows.map (·.1) ∧
    (¬ IsMarkedPhase line → (standard.filter (·.fits line)).length ≤ 1) ∧
    (IsMarkedPhase line →
      (standard.filter (·.fits line)).map (·.name) = ["section marker", "phase heading"]) ∧
    ∀ rows : Catalogue, rows.Perm standard →
      ["section marker", "phase heading"].Sublist (rows.map (·.name)) →
      rows.find? line = standard.find? line :=
  ⟨standard_names, filter_fits_of_not_markedPhase,
    fun h => filter_fits_of_markedPhase h (.refl _) marker_before_heading,
    fun _ hp ho => find?_of_perm hp ho line⟩

/-- The first command moved to the end, and a line that fits two. -/
theorem order_of_commands_first_last : IsMarkedPhase "PHASE 12–" ∧
    (standard.filter (·.fits "PHASE 12–")).map (·.name) = ["section marker", "phase heading"] ∧
    find? (standard.drop 1 ++ standard.take 1) "PHASE 12–" = standard.find? "PHASE 12–" := by
  have hphase : IsMarkedPhase "PHASE 12–" :=
    ⟨"PHASE ".toList, "12".toList, '–', by decide +kernel, by decide +kernel, by decide +kernel,
      List.all_eq_true.mp (by decide +kernel), .inr rfl⟩
  have hperm : (standard.drop 1 ++ standard.take 1).Perm standard :=
    List.perm_append_comm.trans (.of_eq (List.take_append_drop 1 standard))
  have h := order_of_commands "PHASE 12–"
  refine ⟨hphase, h.2.2.1 hphase, h.2.2.2 _ hperm ?_⟩
  rw [List.map_append, List.map_drop, List.map_take, standard_names]
  decide +kernel

end Walkthrough.Catalogue
