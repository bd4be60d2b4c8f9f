import Mathlib.Tactic.IntervalCases
import Walkthrough.Proofs.Command.LastNumber

namespace Walkthrough

def Text.threeDigits (n : Nat) : String :=
  String.ofList [Nat.digitChar (n / 100), Nat.digitChar (n / 10 % 10), Nat.digitChar (n % 10)]

namespace Text

theorem digitValue?_digitChar {d : Nat} (h : d < 10) : digitValue? 10 (Nat.digitChar d) = some d := by
  interval_cases d <;> rfl

theorem isDecimalDigit_digitChar {d : Nat} (h : d < 10) : isDecimalDigit (Nat.digitChar d) := by
  interval_cases d <;> decide

theorem nat?_threeDigits {n : Nat} (h : n < 1000) : nat? maxU16 (threeDigits n) = some n := by
  have hfirst : n / 100 < 10 := by omega
  have hplus : ∀ d < 10, Nat.digitChar d ≠ '+' := by decide
  have hvalue : digitsValue? 10 [Nat.digitChar (n / 100), Nat.digitChar (n / 10 % 10),
      Nat.digitChar (n % 10)] = some (((0 * 10 + n / 100) * 10 + n / 10 % 10) * 10 + n % 10) := by
    unfold digitsValue? digitsValueFrom? digitsValueFrom? digitsValueFrom? digitsValueFrom?
    rw [digitValue?_digitChar hfirst, digitValue?_digitChar (Nat.mod_lt _ (by omega)),
      digitValue?_digitChar (Nat.mod_lt _ (by omega))]
    rfl
  have hsum : ((0 * 10 + n / 100) * 10 + n / 10 % 10) * 10 + n % 10 = n := by omega
  have hmax : n ≤ maxU16 := Nat.le_trans (Nat.le_of_lt h) (by decide)
  unfold nat? threeDigits natOfChars?
  rw [String.toList_ofList]
  split
  · rename_i heq
    exact absurd (List.cons.inj heq).1 (hplus _ hfirst)
  · dsimp only
    rw [hvalue, hsum, Option.filter_some, if_pos (by simpa using hmax)]

end Text

namespace Catalogue

open Pattern

/-- Three digits in a group at the end of the text. -/
def statusDigits : Pattern :=
  many 3 (some 3) true (one .digit)

def statusPattern : Pattern :=
  seq (anchor .textStart) (spelled "check status".toList
    (seq (many 1 none true (one .blank)) (seq (group 1 statusDigits) (anchor .textEnd))))

def statusLine (n : Nat) : String :=
  "check status " ++ Text.threeDigits n

theorem exists_statusCommand : ∃ c ∈ standard, c.name = "check status" ∧
    c.pattern = statusPattern ∧ c.effect = .act .checkStatus := by
  apply exists_of_row "^check status\\s+(\\d\x7b3\x7d)$" (.tail _ (.tail _ (.head _)))
  decide +kernel

theorem leads_statusPattern {n : Nat} (h : n < 1000) :
    ∃ d, statusPattern.Leads (.start (statusLine n).toList) d ∧ d.after = [] := by
  have hline : (statusLine n).toList =
      "check status".toList ++ ([' '] ++ ((Text.threeDigits n).toList ++ [])) := by
    unfold statusLine
    rw [String.toList_append, String.toList_ofList, List.append_nil, ← List.append_assoc]
    rfl
  obtain ⟨words, hwords, hafter⟩ := reads_of_after (c := .start _) hline
  obtain ⟨space, hspace, hafter⟩ := reads_of_after hafter
  obtain ⟨stop, hdigits, hafter⟩ := reads_of_after hafter
  have hblank : (many 1 none true (one .blank)).Leads words space :=
    leads_many_one_iff.mpr
      ⟨[' '], hspace, Nat.le_refl 1, nofun, List.forall_mem_singleton.mpr (by decide)⟩
  have hgroup : statusDigits.Leads space stop := by
    have hall : ∀ d < 10, CharSet.digit.accepts (Nat.digitChar d) = true :=
      fun d hd => Text.isDecimalDigit_digitChar hd
    refine leads_many_one_iff.mpr ⟨_, hdigits, ?_, ?_, ?_⟩
    · simp [Text.threeDigits]
    · simp [Text.threeDigits]
    · unfold Text.threeDigits
      rw [String.toList_ofList]
      simp only [List.forall_mem_cons]
      exact ⟨hall _ (by omega), hall _ (by omega), hall _ (by omega), nofun⟩
  have hend : (anchor .textEnd).Leads stop stop := ⟨List.isEmpty_iff.mpr hafter, rfl⟩
  exact ⟨stop, ⟨_, ⟨rfl, rfl⟩, leads_spelled_iff.mpr
    ⟨_, words, hwords, rfl, space, hblank, stop, hgroup, hend⟩⟩, hafter⟩

theorem lastDigits_statusLine {n : Nat} (h : n < 1000) :
    Text.lastDigits (statusLine n) = (Text.threeDigits n).toList := by
  apply Text.lastDigits_eq (w := "check status".toList) (b := ' ') ?_ rfl
  · unfold Text.threeDigits
    rw [String.toList_ofList]
    simp only [List.forall_mem_cons]
    exact ⟨Text.isDecimalDigit_digitChar (by omega), Text.isDecimalDigit_digitChar (by omega),
      Text.isDecimalDigit_digitChar (by omega), nofun⟩
  · unfold statusLine
    rw [String.toList_append]
    rfl

/-- A status line goes to the command for it, with the digits as its argument. -/
theorem find?_statusLine {n : Nat} (h : n < 1000) :
    ∃ c args, standard.find? (statusLine n) = some (c, args) ∧ c.name = "check status" ∧
      c.effect = .act .checkStatus ∧ args.get? 1 = some (Text.threeDigits n) := by
  obtain ⟨c, hc, hname, hpattern, heffect⟩ := exists_statusCommand
  have hfit : c.fits (statusLine n) = true := by
    rw [fits_iff hc, hpattern]
    exact leads_statusPattern h
  obtain ⟨args, hargs, hfind⟩ := exists_find?_of_fits hc (by rw [hname]; decide)
    (by rw [hname]; decide) hfit
  refine ⟨c, args, hfind, hname, heffect, ?_⟩
  have hsame : c.pattern = digitPattern "check status".toList 3 (some 3) := hpattern
  rw [(Command.captures_digits hsame (by decide) hargs).2.1, lastDigits_statusLine h,
    String.ofList_toList]

end Catalogue

end Walkthrough
