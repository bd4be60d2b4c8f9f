import Walkthrough.Proofs.Text.CaseFold
import Walkthrough.Proofs.Text.Lowercase
import Walkthrough.Proofs.Text.Trimming

namespace Walkthrough.Text

variable {c : Char}

theorem of_isBlank {f : Char → Bool} (h : blankRanges.all (fun r =>
    (List.range' r.1 (r.2 + 1 - r.1)).all fun n => f (Char.ofNat n)) = true)
    (hc : isBlank c = true) : f c = true := by
  simp only [isBlank, Ranges.contains, List.any_eq_true, Bool.and_eq_true,
    decide_eq_true_eq] at hc
  obtain ⟨r, hr, hfirst, hlast⟩ := hc
  have hcode : c.toNat ∈ List.range' r.1 (r.2 + 1 - r.1) := by
    rw [List.mem_range'_1]
    omega
  have hrange := List.all_eq_true.mp h r hr
  have hf := List.all_eq_true.mp hrange c.toNat hcode
  rwa [Char.ofNat_toNat] at hf

/-- Not cased, nor passed over in the search for a cased letter, and in lower case what it is. -/
def isNeutral (c : Char) : Bool :=
  !caseIgnorableRanges.contains c.toNat && !casedRanges.contains c.toNat && c != 'Σ' &&
    lowerChar c == [c]

theorem blankRanges_neutral : blankRanges.all (fun r =>
    (List.range' r.1 (r.2 + 1 - r.1)).all fun n => isNeutral (Char.ofNat n)) = true := by
  decide +kernel

theorem isNeutral_of_isBlank (h : isBlank c = true) : isNeutral c = true :=
  of_isBlank blankRanges_neutral h

theorem meetsCased_cons_of_isBlank (h : isBlank c = true) (rest : List Char) :
    meetsCased (c :: rest) = false := by
  have hc := isNeutral_of_isBlank h
  simp only [isNeutral, Bool.and_eq_true, Bool.not_eq_true'] at hc
  obtain ⟨⟨⟨hseen, huncased⟩, -⟩, -⟩ := hc
  unfold meetsCased
  rw [List.dropWhile_cons_of_neg (by simp [hseen])]
  exact huncased

theorem meetsCased_of_blanks {bs : List Char} (h : ∀ x ∈ bs, isBlank x = true) :
    meetsCased bs = false := by
  cases bs with
  | nil => rfl
  | cons b bs => exact meetsCased_cons_of_isBlank (h b List.mem_cons_self) bs

theorem lowerAt_of_isBlank (h : isBlank c = true) (before after : List Char) :
    lowerAt before after c = [c] := by
  have hc := isNeutral_of_isBlank h
  simp only [isNeutral, Bool.and_eq_true, bne_iff_ne, beq_iff_eq] at hc
  obtain ⟨⟨-, hsigma⟩, hlower⟩ := hc
  unfold lowerAt
  rw [if_neg (by simpa using hsigma), hlower]

theorem lowerBetween_of_blanks {bs : List Char} (h : ∀ x ∈ bs, isBlank x = true)
    (before after : List Char) : lowerBetween before after bs = bs := by
  induction bs generalizing before with
  | nil => rfl
  | cons b bs ih =>
    obtain ⟨hb, hbs⟩ := List.forall_mem_cons.mp h
    rw [lowerBetween_cons, lowerAt_of_isBlank hb, ih hbs]
    rfl

/-- Blanks at both ends stay there in lower case, and what stands between is lower-cased on its own. -/
theorem lowerFrom_pad {left right : List Char} (hleft : ∀ x ∈ left, isBlank x = true)
    (hright : ∀ x ∈ right, isBlank x = true) (cs : List Char) :
    lowerFrom [] (left ++ cs ++ right) = left ++ lowerFrom [] cs ++ right := by
  have hback : ∀ x ∈ left.reverse, isBlank x = true := fun x hx => hleft x (List.mem_reverse.mp hx)
  have hkept : SigmasKept left cs right :=
    sigmasKept_of_apart (meetsCased_of_blanks hback) (meetsCased_of_blanks hright) cs
  rw [lowerFrom_parts, lowerBetween_of_blanks hleft, sigmasKept_iff.mp hkept,
    lowerFrom_eq_lowerBetween _ right, lowerBetween_of_blanks hright]

theorem not_blank_of_toLower (hascii : c.toNat < 128) (h : isBlank c = false) :
    isBlank c.toLower = false := by
  have hlower : ∀ n < 128, isBlank (Char.ofNat n) = false →
      isBlank (Char.ofNat n).toLower = false := by
    decide
  have hc := hlower c.toNat hascii
  rw [Char.ofNat_toNat] at hc
  exact hc h

theorem lowerShifts_spare_blanks :
    lowerShifts.all (fun s => blankRanges.all fun r => 0 < r.1 && s.spares r.1 r.2) = true := by
  decide +kernel

theorem not_blank_of_mem_lowerAt {before after : List Char} {x : Char} (h : isBlank c = false)
    (hx : x ∈ lowerAt before after c) : isBlank x = false := by
  unfold lowerAt at hx
  split at hx
  · obtain rfl := List.mem_singleton.mp hx
    split <;> decide
  unfold lowerChar at hx
  split at hx
  · next hascii =>
    obtain rfl := List.mem_singleton.mp hx
    exact not_blank_of_toLower hascii h
  split at hx
  · have hpair : ['i', Char.ofNat 0x307].all (!isBlank ·) = true := by decide
    simpa using List.all_eq_true.mp hpair x hx
  -- a blank that a shift leads to would have to stand where no shift leads
  · by_contra hblank
    simp only [Bool.not_eq_false, isBlank, Ranges.contains, List.any_eq_true, Bool.and_eq_true,
      decide_eq_true_eq] at hblank
    obtain ⟨r, hr, hfirst, hlast⟩ := hblank
    have hspares (s : Shift) (hs : s ∈ lowerShifts) : 0 < r.1 ∧ s.spares r.1 r.2 = true := by
      have hrow := List.all_eq_true.mp (List.all_eq_true.mp lowerShifts_spare_blanks s hs) r hr
      simpa using hrow
    have hpos : 0 < r.1 := (hspares _ List.mem_cons_self).1
    have hcode := toNat_ofNat (Nat.lt_of_lt_of_le hpos hfirst) (List.mem_singleton.mp hx).symm
    obtain hsame | ⟨s, hs, himage⟩ := applyFirst_eq hcode
    · rw [Char.toNat_inj.mp hsame, isBlank, Ranges.contains, List.any_eq_false] at h
      exact h r hr (by simp [hfirst, hlast])
    · have hshift := (hspares s hs).2
      exact Shift.image?_ne_of_spares hshift (Nat.lt_of_lt_of_le hpos hfirst) hfirst hlast himage

theorem trimmed_lowerFrom {cs : List Char} (h : Trimmed cs) (before : List Char) :
    Trimmed (lowerFrom before cs) := by
  constructor
  · cases cs with
    | nil => exact nofun
    | cons c rest =>
      intro x hx
      rw [lowerFrom_cons, List.head?_append_of_ne_nil _ (lowerAt_ne_nil _ _ _)] at hx
      exact not_blank_of_mem_lowerAt (h.first c rfl) (List.mem_of_mem_head? hx)
  · cases cs using List.reverseRecOn with
    | nil => exact nofun
    | append_singleton front c =>
      intro x hx
      rw [lowerFrom_append, lowerFrom_cons, lowerFrom, List.append_nil,
        List.getLast?_append_of_ne_nil _ (lowerAt_ne_nil _ _ _)] at hx
      have hlast : isBlank c = false := h.last c (by simp)
      exact not_blank_of_mem_lowerAt hlast (List.mem_of_mem_getLast? hx)

theorem exists_pad (cs : List Char) : ∃ left right, (∀ x ∈ left, isBlank x = true) ∧
    (∀ x ∈ right, isBlank x = true) ∧ cs = left ++ trimChars cs ++ right := by
  refine ⟨cs.takeWhile isBlank, (dropBlanks cs).rtakeWhile isBlank,
    fun x hx => List.mem_takeWhile_imp hx, fun x hx => List.mem_rtakeWhile_imp hx, ?_⟩
  unfold trimChars
  rw [dropBlanksEnd_eq_rdropWhile, List.append_assoc, List.rdropWhile_append_rtakeWhile]
  exact List.takeWhile_append_dropWhile.symm

theorem isInfix_of_blanks_append {n bs cs : List Char} (hne : n ≠ [])
    (hfirst : ∀ x ∈ n.head?, isBlank x = false) (hbs : ∀ x ∈ bs, isBlank x = true)
    (h : n <:+: bs ++ cs) : n <:+: cs := by
  induction bs with
  | nil => exact h
  | cons b bs ih =>
    obtain ⟨hb, hrest⟩ := List.forall_mem_cons.mp hbs
    rw [List.cons_append, List.infix_cons_iff] at h
    obtain hprefix | hlater := h
    · obtain ⟨x, rest, rfl⟩ := List.exists_cons_of_ne_nil hne
      obtain rfl := (List.cons_prefix_cons.mp hprefix).1
      rw [hfirst x rfl] at hb
      contradiction
    · exact ih hrest hlater

theorem Trimmed.isInfix_of_pad {n left cs right : List Char} (hn : Trimmed n) (hne : n ≠ [])
    (hleft : ∀ x ∈ left, isBlank x = true) (hright : ∀ x ∈ right, isBlank x = true)
    (h : n <:+: left ++ cs ++ right) : n <:+: cs := by
  rw [List.append_assoc] at h
  have hfront := (isInfix_of_blanks_append hne hn.first hleft h).reverse
  rw [List.reverse_append] at hfront
  have hlast : ∀ x ∈ n.reverse.head?, isBlank x = false := by
    rw [List.head?_reverse]
    exact hn.last
  have hback : ∀ x ∈ right.reverse, isBlank x = true :=
    fun x hx => hright x (List.mem_reverse.mp hx)
  exact List.reverse_infix.mp
    (isInfix_of_blanks_append (List.reverse_ne_nil_iff.mpr hne) hlast hback hfront)

end Walkthrough.Text
