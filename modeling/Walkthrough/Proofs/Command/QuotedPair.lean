import Mathlib.Data.List.Count
import Walkthrough.Proofs.Command.Routing
import Walkthrough.Proofs.Pattern.Framing
import Walkthrough.Proofs.Pattern.Greedy

namespace Walkthrough

namespace Pattern

def blanks : Pattern :=
  many 1 none true (one .blank)

/-- Any characters of one line, at least one. -/
def argument : Pattern :=
  many 1 none true (one (.complement (.single '\n')))

def opening (first : List Char) : Pattern :=
  seq (anchor .textStart) (spelled first (seq blanks (spelled ['"'] empty)))

def linked (second : List Char) (p : Pattern) : Pattern :=
  spelled ['"'] (seq blanks (spelled second (seq blanks (spelled ['"'] p))))

def ending : Pattern :=
  spelled ['"'] (anchor .textEnd)

def quotedPair (first second : List Char) : Pattern :=
  seq (anchor .textStart) (spelled first (seq blanks (spelled ['"']
    (seq (group 1 argument) (linked second (seq (group 2 argument) ending))))))

/-- What is around the arguments can be read in no more than one way, and no quotation mark is among
the words between them. -/
def clearWords (first second : List Char) : Bool :=
  (opening first).sharp && (linked second empty).sharp && !second.contains '"'

def pairTail (second v : List Char) : List Char :=
  ['"', ' '] ++ second ++ [' ', '"'] ++ (v ++ ['"'])

def pairLine (first second u v : List Char) : List Char :=
  first ++ [' ', '"'] ++ (u ++ pairTail second v)

theorem cut?_blanks {i : Nat} {p a g b : Pattern} (h : p.cut? i = some (a, g, b)) :
    (seq blanks p).cut? i = some (seq blanks a, g, b) := by
  have hcut : (seq blanks p).cut? i = (p.cut? i).map fun r => (seq blanks r.1, r.2.1, r.2.2) := rfl
  rw [hcut, h]
  rfl

theorem cut?_linked {p : Pattern} (second : List Char) :
    (linked second (seq (group 2 argument) p)).cut? 2 =
      some (linked second empty, argument, seq empty p) :=
  cut?_spelled (cut?_blanks (cut?_spelled (cut?_blanks (cut?_spelled rfl _)) _)) _

theorem cut?_quotedPair (first second : List Char) : (quotedPair first second).cut? 1 =
    some (opening first, argument, seq empty (linked second (seq (group 2 argument) ending))) := by
  have hrest : (spelled first (seq blanks (spelled ['"'] (seq (group 1 argument)
      (linked second (seq (group 2 argument) ending)))))).cut? 1 =
      some (spelled first (seq blanks (spelled ['"'] empty)), argument,
        seq empty (linked second (seq (group 2 argument) ending))) :=
    cut?_spelled (cut?_blanks (cut?_spelled rfl _)) _
  unfold quotedPair cut?
  rw [hrest]
  rfl

theorem closes_quotedPair (first second : List Char) : (quotedPair first second).closes = true := by
  have hlast : (linked second (seq (group 2 argument) ending)).closes = true := by
    show (spelled second (seq blanks (spelled ['"'] (seq (group 2 argument) ending)))).closes = true
    exact closes_spelled rfl second
  exact closes_spelled (p := seq blanks (spelled ['"'] (seq (group 1 argument)
    (linked second (seq (group 2 argument) ending))))) hlast first

theorem lastGroup_spelled (cs : List Char) (p : Pattern) :
    (spelled cs p).lastGroup = p.lastGroup := by
  induction cs with
  | nil => rfl
  | cons x cs ih => exact (Nat.zero_max _).trans ih

theorem lastGroup_quotedPair (first second : List Char) :
    (quotedPair first second).lastGroup = 2 := by
  simp [quotedPair, linked, ending, blanks, argument, lastGroup, lastGroup_spelled]

theorem groups_linked (second : List Char) (p : Pattern) : (linked second p).groups = p.groups :=
  groups_spelled second (seq blanks (spelled ['"'] p))

theorem leads_quote_iff {p : Pattern} {c d : Cursor} :
    (spelled ['"'] p).Leads c d ↔ ∃ e, Reads c ['"'] e ∧ p.Leads e d := by
  rw [leads_spelled_iff]
  constructor
  · intro h
    obtain ⟨u, e, hu, hfold, hp⟩ := h
    obtain ⟨x, rfl⟩ : ∃ x, u = [x] :=
      List.length_eq_one_iff.mp (by simpa using congrArg List.length hfold)
    have hquote : Text.uncased '"' = true := by decide
    have hx : Text.foldCase x = '"' := by
      rw [← Text.foldCase_of_uncased hquote]
      exact (List.cons.inj hfold).1
    rw [Text.eq_of_foldCase_uncased hquote hx] at hu
    exact ⟨e, hu, hp⟩
  · intro h
    obtain ⟨e, hu, hp⟩ := h
    exact ⟨_, e, hu, rfl, hp⟩

theorem leads_linked_iff {second : List Char} {p : Pattern} {c d : Cursor} :
    (linked second p).Leads c d ↔ ∃ e, (linked second empty).Leads c e ∧ p.Leads e d := by
  constructor
  · intro h
    obtain ⟨q, hq, w, hw, h⟩ := leads_quote_iff.mp h
    obtain ⟨u, x, hu, hfold, w', hw', h⟩ := leads_spelled_iff.mp h
    obtain ⟨e, he, hp⟩ := leads_quote_iff.mp h
    exact ⟨e, leads_quote_iff.mpr ⟨q, hq, w, hw, leads_spelled_iff.mpr
      ⟨u, x, hu, hfold, w', hw', leads_quote_iff.mpr ⟨e, he, rfl⟩⟩⟩, hp⟩
  · intro h
    obtain ⟨e, h, hp⟩ := h
    obtain ⟨q, hq, w, hw, h⟩ := leads_quote_iff.mp h
    obtain ⟨u, x, hu, hfold, w', hw', h⟩ := leads_spelled_iff.mp h
    obtain ⟨_, he, rfl⟩ := leads_quote_iff.mp h
    exact leads_quote_iff.mpr ⟨q, hq, w, hw, leads_spelled_iff.mpr
      ⟨u, x, hu, hfold, w', hw', leads_quote_iff.mpr ⟨_, he, hp⟩⟩⟩

theorem leads_blanks {c d : Cursor} (h : Reads c [' '] d) : blanks.Leads c d :=
  leads_many_one_iff.mpr
    ⟨[' '], h, Nat.le_refl 1, nofun, List.forall_mem_singleton.mpr (by decide)⟩

theorem leads_argument {u : List Char} {c d : Cursor} (hne : u ≠ []) (hline : '\n' ∉ u)
    (hu : Reads c u d) : argument.Leads c d := by
  refine leads_many_one_iff.mpr ⟨u, hu, List.length_pos_iff.mpr hne, nofun, fun x hx => ?_⟩
  have hother : '\n' ≠ x := fun h => hline (h ▸ hx)
  simpa [CharSet.accepts] using hother

theorem leads_opening {first : List Char} {text : List Char} {d : Cursor}
    (h : Reads (.start text) (first ++ [' ', '"']) d) : (opening first).Leads (.start text) d := by
  obtain ⟨words, hwords, hrest⟩ := h.split
  obtain ⟨space, hspace, hquote⟩ := Reads.split (u := [' ']) (v := ['"']) hrest
  exact ⟨_, ⟨rfl, rfl⟩, leads_spelled_iff.mpr ⟨first, words, hwords, rfl, space,
    leads_blanks hspace, leads_quote_iff.mpr ⟨d, hquote, rfl⟩⟩⟩

theorem leads_linked {second : List Char} {c d : Cursor}
    (h : Reads c (['"', ' '] ++ second ++ [' ', '"']) d) : (linked second empty).Leads c d := by
  obtain ⟨words, hwords, hrest⟩ := h.split
  obtain ⟨before, hbefore, hwords⟩ := hwords.split
  obtain ⟨quote, hquote, hspace⟩ := Reads.split (u := ['"']) (v := [' ']) hbefore
  obtain ⟨behind, hbehind, hlast⟩ := Reads.split (u := [' ']) (v := ['"']) hrest
  exact leads_quote_iff.mpr ⟨quote, hquote, before, leads_blanks hspace, leads_spelled_iff.mpr
    ⟨second, words, hwords, rfl, behind, leads_blanks hbehind, leads_quote_iff.mpr ⟨d, hlast, rfl⟩⟩⟩

theorem leads_ending_iff {c d : Cursor} : ending.Leads c d ↔ Reads c ['"'] d ∧ d.after = [] := by
  unfold ending
  rw [leads_quote_iff]
  constructor
  · intro h
    obtain ⟨e, he, hend, rfl⟩ := h
    exact ⟨he, List.isEmpty_iff.mp hend⟩
  · intro h
    exact ⟨d, h.1, List.isEmpty_iff.mpr h.2, rfl⟩

/-- What is read from the end of the first argument on has at least three quotation marks. -/
theorem three_quotes {second w : List Char} {c d : Cursor}
    (h : (linked second (seq (group 2 argument) ending)).Leads c d) (hw : Reads c w d) :
    3 ≤ w.count '"' := by
  obtain ⟨e, hlinked, f, hargument, hending⟩ := leads_linked_iff.mp h
  obtain ⟨q, hq, b, hb, hrest⟩ := leads_quote_iff.mp hlinked
  obtain ⟨s, x, hs, -, b', hb', hrest⟩ := leads_spelled_iff.mp hrest
  obtain ⟨_, he, rfl⟩ := leads_quote_iff.mp hrest
  obtain ⟨t, ht⟩ := leads_forward blanks _ _ hb
  obtain ⟨t', ht'⟩ := leads_forward blanks _ _ hb'
  obtain ⟨y, hy⟩ := leads_forward argument _ _ hargument
  have hlast := (leads_ending_iff.mp hending).1
  have hall : w = ['"'] ++ (t ++ (s ++ (t' ++ (['"'] ++ (y ++ ['"']))))) :=
    hw.text_unique (hq.append (ht.append (hs.append (ht'.append (he.append (hy.append hlast))))))
  rw [hall]
  simp only [List.count_append, List.count_singleton_self]
  omega

variable {first second u v : List Char}

/-- An argument that is not shorter than the first one and leaves the rest of the pattern enough is the
first one: if it were longer, the rest would have too few quotation marks. -/
theorem eq_first {c d d' stop : Cursor} (hsecond : '"' ∉ second) (hquote : '"' ∉ v)
    (hafter : c.after = u ++ pairTail second v) (hd : Reads c u d) (hd' : argument.Leads c d')
    (hrest : (linked second (seq (group 2 argument) ending)).Leads d' stop)
    (hstop : stop.after = []) (hlong : d.position ≤ d'.position) : d = d' := by
  obtain ⟨u', hu'⟩ := leads_forward argument _ _ hd'
  obtain ⟨w, hw⟩ := leads_forward _ _ _ hrest
  have hall : u ++ pairTail second v = u' ++ w := by
    rw [← hafter, hu'.after_eq, hw.after_eq, hstop, List.append_nil]
  have hlength : u.length ≤ u'.length := by
    rw [hd.position_eq, hu'.position_eq] at hlong
    omega
  obtain ⟨y, rfl⟩ : ∃ y, u' = u ++ y := by
    obtain ⟨y, hy⟩ := List.prefix_of_prefix_length_le (List.prefix_append u _)
      (hall ▸ List.prefix_append u' w) hlength
    exact ⟨y, hy.symm⟩
  have hsplit : pairTail second v = y ++ w := by
    rw [List.append_assoc] at hall
    exact List.append_cancel_left hall
  cases y with
  | nil => exact hd.unique ((List.append_nil u) ▸ hu')
  | cons x y =>
    obtain rfl : '"' = x := (List.cons.inj hsplit).1
    have hleast := three_quotes hrest hw
    have hcount := congrArg (List.count '"') hsplit
    have hnone : second.count '"' = 0 := List.count_eq_zero.mpr hsecond
    have hplain : v.count '"' = 0 := List.count_eq_zero.mpr hquote
    simp [pairTail, hnone, hplain] at hcount
    omega

theorem lookup_second {d : Cursor} {caps : Captures} {t : State}
    (hsharp : (linked second empty).sharp = true) (hafter : d.after = pairTail second v)
    (ht : t ∈ (seq empty (linked second (seq (group 2 argument) ending))).runs (d, caps)) :
    t.2.lookup 1 = caps.lookup 1 ∧ ∃ e f, Reads e v f ∧ t.2.lookup 2 = some (e, f) := by
  constructor
  · apply lookup_runs (s := (d, caps)) _ t ht
    simp [groups, groups_linked, ending, groups_spelled, argument]
  · obtain ⟨e, he, hrest⟩ := reads_of_after hafter
    have hcut : (seq empty (linked second (seq (group 2 argument) ending))).cut? 2 =
        some (seq empty (linked second empty), argument, seq empty ending) := by
      unfold cut?
      rw [cut?_linked]
      rfl
    obtain ⟨e', f, ⟨_, rfl, hlinked⟩, hargument, ⟨_, rfl, hending⟩, hlookup⟩ :=
      mem_runs_of_cut? hcut (by simp [groups, ending, groups_spelled]) ht
    obtain rfl : e = e' := eq_of_sharp hsharp (leads_linked he) hlinked
    obtain ⟨v', hv'⟩ := leads_forward argument _ _ hargument
    obtain ⟨hlast, hstop⟩ := leads_ending_iff.mp hending
    have hsame : v ++ ['"'] = v' ++ ['"'] := by
      rw [← hrest, hv'.after_eq, hlast.after_eq, hstop, List.append_nil]
    obtain rfl : v = v' := List.append_cancel_right hsame
    exact ⟨e, f, hv', hlookup⟩

theorem exists_way (second : List Char) (hv : v ≠ []) (hline : '\n' ∉ v) {c : Cursor}
    (hafter : c.after = u ++ pairTail second v) :
    ∃ d stop, Reads c u d ∧ d.after = pairTail second v ∧
      (seq empty (linked second (seq (group 2 argument) ending))).Leads d stop ∧
      stop.after = [] := by
  obtain ⟨d, hd, hdafter⟩ := reads_of_after hafter
  obtain ⟨e, he, hafter⟩ := reads_of_after hdafter
  obtain ⟨f, hf, hafter⟩ := reads_of_after hafter
  obtain ⟨stop, hlast, hstop⟩ := reads_of_after (hafter.trans (List.append_nil _).symm)
  have hlinked : (linked second (seq (group 2 argument) ending)).Leads d stop :=
    leads_linked_iff.mpr ⟨e, leads_linked he, f, leads_argument hv hline hf,
      leads_ending_iff.mpr ⟨hlast, hstop⟩⟩
  exact ⟨d, stop, hd, hdafter, ⟨d, rfl, hlinked⟩, hstop⟩

theorem find?_quotedPair (h : clearWords first second = true) (hu : u ≠ []) (hline : '\n' ∉ u)
    (hv : v ≠ []) (hline' : '\n' ∉ v) (hquote : '"' ∉ v) :
    ∃ m, (quotedPair first second).find? (pairLine first second u v) = some m ∧
      m.group? 0 = some (pairLine first second u v) ∧ m.group? 1 = some u ∧ m.group? 2 = some v := by
  simp only [clearWords, Bool.and_eq_true, Bool.not_eq_true', List.contains_eq_mem,
    decide_eq_false_iff_not] at h
  obtain ⟨⟨hopening, hlinked⟩, hsecond⟩ := h
  obtain ⟨c, hc, hcafter⟩ := reads_of_after (c := .start (pairLine first second u v)) rfl
  obtain ⟨d, stop, hd, hdafter, hrest, hstop⟩ := exists_way second hv hline' hcafter
  have ho : (quotedPair first second).opens = true := rfl
  have hcloses := closes_quotedPair first second
  have hway : (quotedPair first second).Leads (.start (pairLine first second u v)) stop :=
    (leads_iff_of_cut? (cut?_quotedPair first second)).mpr
      ⟨c, leads_opening hc, d, leads_argument hu hline hd, hrest⟩
  obtain ⟨m, hm⟩ := Option.isSome_iff_exists.mp
    ((occurs_iff_of_whole ho hcloses _).mpr ⟨stop, hway, hstop⟩)
  obtain ⟨hread, hwhole⟩ := group?_zero_of_find? ho hcloses hm
  have hmstop : m.stop.after = [] := by
    have hall := hread.after_eq
    exact List.append_cancel_left ((List.append_nil _).trans hall).symm
  -- The first argument of the match begins in the same place and is not shorter.
  obtain ⟨c', d', caps, hc', hd', hrun, hlongest⟩ :=
    longest_of_matchAt (cut?_quotedPair first second) (matchAt_of_find? ho hm)
  obtain rfl : c = c' := eq_of_sharp hopening (leads_opening hc) hc'
  obtain ⟨_, rfl, hbehind⟩ : (seq empty (linked second (seq (group 2 argument) ending))).Leads d'
      m.stop := (runs_realizes _).of_mem hrun
  obtain rfl : d = d' := eq_first hsecond hquote hcafter hd hd' hbehind hmstop
    (hlongest d stop (leads_argument hu hline hd) hrest)
  obtain ⟨hfirst, e, f, hsecond, hlookup⟩ := lookup_second hlinked hdafter hrun
  exact ⟨m, hm, hwhole,
    Match.group?_of_lookup (by decide) (hfirst.trans (List.lookup_cons_self ..)) hd,
    Match.group?_of_lookup (by decide) hlookup hsecond⟩

end Pattern

namespace Catalogue

def quotedLine (first u second v : String) : String :=
  first ++ " \"" ++ u ++ "\" " ++ second ++ " \"" ++ v ++ "\""

theorem toList_quotedLine (first u second v : String) : (quotedLine first u second v).toList =
    Pattern.pairLine first.toList second.toList u.toList v.toList := by
  simp [quotedLine, Pattern.pairLine, Pattern.pairTail]

theorem exists_typeInto : ∃ c ∈ standard, c.name = "type into" ∧
    c.pattern = Pattern.quotedPair "type".toList "into".toList ∧ c.effect = .act .typeInto := by
  apply exists_of_row "^type\\s+\"(.+)\"\\s+into\\s+\"(.+)\"$"
  · simp [standardRows]
  · decide +kernel

theorem exists_fillWith : ∃ c ∈ standard, c.name = "fill with" ∧
    c.pattern = Pattern.quotedPair "fill".toList "with".toList ∧ c.effect = .act .fillWith := by
  apply exists_of_row "^fill\\s+\"(.+)\"\\s+with\\s+\"(.+)\"$"
  · simp [standardRows]
  · decide +kernel

/-- A text that can stand in quotation marks: it says something, on one line. -/
structure IsArgument (text : String) : Prop where
  nonempty : text ≠ ""
  lineFeed : '\n' ∉ text.toList

theorem IsArgument.toList_ne_nil {text : String} (h : IsArgument text) : text.toList ≠ [] :=
  fun hnil => h.nonempty (String.toList_eq_nil_iff.mp hnil)

/-- A line with two arguments goes to the command for its words, with both arguments as they are. -/
theorem find?_quotedLine {c : Command} (hc : c ∈ standard) (hmarker : c.name ≠ "section marker")
    (hheading : c.name ≠ "phase heading") {first second : String}
    (hpattern : c.pattern = Pattern.quotedPair first.toList second.toList)
    (hclear : Pattern.clearWords first.toList second.toList = true) {u v : String}
    (hu : IsArgument u) (hv : IsArgument v) (hquote : '"' ∉ v.toList) :
    standard.find? (quotedLine first u second v) =
      some (c, ⟨quotedLine first u second v, [some (quotedLine first u second v), some u, some v]⟩) := by
  obtain ⟨m, hm, hline, hfirst, hsecond⟩ := Pattern.find?_quotedPair hclear hu.toList_ne_nil
    hu.lineFeed hv.toList_ne_nil hv.lineFeed hquote
  rw [← toList_quotedLine] at hm hline
  rw [← hpattern] at hm
  rw [find?_of_fits hc hmarker hheading (Command.fits_of_find? hm)]
  have hlast : c.pattern.lastGroup = 2 := hpattern ▸ Pattern.lastGroup_quotedPair _ _
  have hgroups : List.range 3 = [0, 1, 2] := by decide
  unfold Command.capture?
  rw [hm, hlast, hgroups]
  simp [hline, hfirst, hsecond]

theorem find?_typed {value field : String} (hvalue : IsArgument value) (hfield : IsArgument field)
    (hquote : '"' ∉ field.toList) :
    let typed := quotedLine "type" value "into" field
    ∃ c, standard.find? typed = some (c, ⟨typed, [some typed, some value, some field]⟩) ∧
      c.name = "type into" ∧ c.effect = .act .typeInto := by
  obtain ⟨c, hc, hname, hpattern, heffect⟩ := exists_typeInto
  have hfind := find?_quotedLine hc (by rw [hname]; decide) (by rw [hname]; decide) hpattern
    (by decide +kernel) hvalue hfield hquote
  exact ⟨c, hfind, hname, heffect⟩

theorem find?_filled {field value : String} (hfield : IsArgument field) (hvalue : IsArgument value)
    (hquote : '"' ∉ value.toList) :
    let filled := quotedLine "fill" field "with" value
    ∃ c, standard.find? filled = some (c, ⟨filled, [some filled, some field, some value]⟩) ∧
      c.name = "fill with" ∧ c.effect = .act .fillWith := by
  obtain ⟨c, hc, hname, hpattern, heffect⟩ := exists_fillWith
  have hfind := find?_quotedLine hc (by rw [hname]; decide) (by rw [hname]; decide) hpattern
    (by decide +kernel) hfield hvalue hquote
  exact ⟨c, hfind, hname, heffect⟩

end Catalogue

end Walkthrough
