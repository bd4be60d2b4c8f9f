import Walkthrough.Proofs.Command.Routing
import Walkthrough.Proofs.Pattern.Framing
import Walkthrough.Proofs.Text.Numeral

namespace Walkthrough

namespace Pattern

/-- Words, blanks and a number, which is captured, up to the end of the text. -/
def digitPattern (words : List Char) (least : Nat) (most : Option Nat) : Pattern :=
  seq (anchor .textStart) (spelled words (seq (many 1 none true (one .blank))
    (seq (group 1 (many least most true (one .digit))) (anchor .textEnd))))

variable {words : List Char} {least : Nat} {most : Option Nat}

theorem cut?_digitPattern : (digitPattern words least most).cut? 1 =
    some (seq (anchor .textStart) (spelled words (seq (many 1 none true (one .blank)) empty)),
      many least most true (one .digit), seq empty (anchor .textEnd)) := by
  have htail : (seq (many 1 none true (one .blank))
      (seq (group 1 (many least most true (one .digit))) (anchor .textEnd))).cut? 1 =
      some (seq (many 1 none true (one .blank)) empty, many least most true (one .digit),
        seq empty (anchor .textEnd)) := by
    simp [cut?]
  unfold digitPattern cut?
  rw [cut?_spelled htail]
  rfl

theorem ends_in_blank {text w : List Char} {c : Cursor} (hw : Reads (.start text) w c)
    (h : (seq (anchor .textStart) (spelled words (seq (many 1 none true (one .blank)) empty))).Leads
      (.start text) c) : ∃ front b, w = front ++ [b] ∧ Text.isBlank b = true := by
  obtain ⟨_, ⟨-, rfl⟩, hspelled⟩ := h
  obtain ⟨u, d, hu, -, e, hblanks, rfl⟩ := leads_spelled_iff.mp hspelled
  obtain ⟨v, hv, hsome, -, hall⟩ := leads_many_one_iff.mp hblanks
  obtain rfl | ⟨v, b, rfl⟩ := v.eq_nil_or_concat'
  · exact absurd hsome (by decide)
  refine ⟨u ++ v, b, ?_, hall b (by simp)⟩
  have hsame : w ++ e.after = (u ++ (v ++ [b])) ++ e.after :=
    hw.after_eq.symm.trans (hu.append hv).after_eq
  rw [List.append_cancel_right hsame, List.append_assoc]

end Pattern

open Pattern

/-- A command of this kind captures the digits that the line ends with. -/
theorem Command.captures_digits {c : Command} {words : List Char} {least : Nat} {most : Option Nat}
    (hpattern : c.pattern = digitPattern words least most) (hleast : 0 < least) {line : String}
    {args : Arguments} (hargs : c.capture? line = some args) :
    let digits := Text.lastDigits line
    args.line = line ∧ args.get? 1 = some (String.ofList digits) ∧
      (∀ x ∈ digits, Text.isDecimalDigit x = true) ∧ least ≤ digits.length ∧
      ∀ m ∈ most, digits.length ≤ max least m := by
  intro digits
  obtain ⟨m, hm, hmatch⟩ := Option.map_eq_some_iff.mp hargs
  have hfirst := groups_of_capture? hargs hm (i := 1)
    (by rw [hpattern]; exact mem_groups_of_cut? cut?_digitPattern)
  have hcloses : (digitPattern words least most).closes = true := closes_spelled rfl words
  rw [hpattern] at hm
  obtain ⟨w, u, v, e, d, f, htext, hw, hu, hv, hfront, hleads, hend, hgroup⟩ :=
    find?_of_cut? (i := 0) rfl hcloses cut?_digitPattern (by simp [Pattern.groups]) hm
  obtain ⟨u', hu', hmany, hmost, hall⟩ := leads_many_one_iff.mp hleads
  have hsame : u = u' :=
    List.append_cancel_right (hu.after_eq.symm.trans hu'.after_eq)
  subst hsame
  -- Nothing comes after the digits.
  obtain ⟨_, rfl, -, rfl⟩ := hend
  rw [hv.eq_nil, List.append_nil] at htext
  obtain ⟨front, b, rfl, hblank⟩ := ends_in_blank hw hfront
  have hdigits : digits = u := Text.lastDigits_eq htext (Text.not_digit_of_isBlank hblank) hall
  rw [hdigits]
  refine ⟨hmatch ▸ rfl, ?_, hall, hmany, hmost⟩
  have hne : u ≠ [] := List.ne_nil_of_length_pos (Nat.lt_of_lt_of_le hleast hmany)
  unfold Arguments.get?
  rw [List.getD_eq_getElem?_getD, hfirst, hgroup]
  simpa using hne

namespace Catalogue

theorem exists_waitCommand : ∃ c ∈ standard, c.name = "wait" ∧
    c.pattern = digitPattern "wait".toList 1 none ∧ c.effect = .act .wait := by
  refine exists_of_row "^wait\\s+(\\d+)$" (by simp [standardRows]) ?_
  decide +kernel

end Catalogue

end Walkthrough
