import Walkthrough.Page.Wording
import Walkthrough.Proofs.StepFile.Scoping
import Walkthrough.Proofs.Text.Lowercase
import Walkthrough.Proofs.Text.Search

namespace Walkthrough

namespace Wording

theorem fits_iff {w : Wording} {text : String} :
    w.fits text = true ↔ ∃ needle ∈ w.needles,
      needle.toList <:+: (Text.lowercase text).toList := by
  unfold fits
  simp only [List.any_eq_true, Text.contains_iff_isInfix]

theorem mem_needles {w : Wording} {n : String} (hn : n ∈ w.raw) (hsome : n ≠ "")
    (htrim : Text.trim n = n) : Text.lowercase n ∈ w.needles := by
  refine List.mem_filter.mpr ⟨List.mem_map.mpr ⟨n, hn, by rw [htrim]⟩, ?_⟩
  simpa using Text.lowercase_ne_empty hsome

theorem fits_of_mem {w : Wording} {a n b : String} (hn : n ∈ w.raw) (hsome : n ≠ "")
    (htrim : Text.trim n = n) (hkept : Text.SigmasKept a.toList n.toList b.toList) :
    w.fits (a ++ n ++ b) = true :=
  fits_iff.mpr ⟨_, mem_needles hn hsome htrim, Text.lowercase_isInfix hkept⟩

end Wording

namespace StepFile

theorem mem_load_of_keyword {book : Phrasebook} {scope : Scope} {text : String} {step : Step}
    {a n b : String} (hn : scope.keyword = some n)
    (hkept : Text.SigmasKept a.toList n.toList b.toList) (htext : step.text = a ++ n ++ b)
    (h : step ∈ load book { scope with keyword := none } text) : step ∈ load book scope text := by
  rw [load_eq_filter, List.mem_filter, decide_eq_true_iff] at h ⊢
  obtain ⟨hmem, hspans, -⟩ := h
  refine ⟨hmem, hspans, fun keyword hkeyword _ => ?_⟩
  obtain rfl := Option.some.inj (hn.symm.trans hkeyword)
  rw [htext]
  exact Text.lowercase_isInfix hkept

end StepFile

namespace Wording

/-- A wording with a needle that stands in a text literally fits that text, and the keyword of a scope
keeps the steps that it stands in literally, if the capital sigmas of the needle take the same forms in
the text as on their own. They do if there are none, and if no letter touches the needle. -/
theorem found_where_literal (a n b : String) :
    ('Σ' ∉ n.toList ∨
        Text.meetsCased a.toList.reverse = false ∧ Text.meetsCased b.toList = false →
      Text.SigmasKept a.toList n.toList b.toList) ∧
    (n ≠ "" → Text.SigmasKept a.toList n.toList b.toList →
      (Text.trim n = n → (Wording.contains n).fits (a ++ n ++ b) = true ∧
        ∀ needles, n ∈ needles → (Wording.anyOf needles).fits (a ++ n ++ b) = true) ∧
      ∀ book scope text step, scope.keyword = some n → step.text = a ++ n ++ b →
        step ∈ StepFile.load book { scope with keyword := none } text →
        step ∈ StepFile.load book scope text) := by
  refine ⟨fun h => ?_, fun hsome hkept => ⟨fun htrim => ⟨?_, fun needles hn => ?_⟩,
    fun book scope text step hn htext => StepFile.mem_load_of_keyword hn hkept htext⟩⟩
  · obtain hnone | ⟨ha, hb⟩ := h
    · exact Text.sigmasKept_of_not_mem hnone _ _
    · exact Text.sigmasKept_of_apart ha hb _
  · exact fits_of_mem List.mem_cons_self hsome htrim hkept
  · exact fits_of_mem hn hsome htrim hkept

/-- A word that ends in a sigma, between two others. -/
theorem found_where_literal_word :
    Text.trim "ΕΙΣ" = "ΕΙΣ" ∧ (Wording.contains "ΕΙΣ").fits ("ΠΡΟΣ " ++ "ΕΙΣ" ++ " ΑΥΤΟ") = true ∧
      (Wording.anyOf ["ΠΟΥ", "ΕΙΣ"]).fits ("ΠΡΟΣ " ++ "ΕΙΣ" ++ " ΑΥΤΟ") = true ∧
      (⟨1, "ΠΡΟΣ ΕΙΣ ΑΥΤΟ", 1⟩ : Step) ∈
        StepFile.load [] (.matching "ΕΙΣ") "ΠΡΟΣ ΕΙΣ ΑΥΤΟ" := by
  obtain ⟨hkept, hfound⟩ := found_where_literal "ΠΡΟΣ " "ΕΙΣ" " ΑΥΤΟ"
  have htrim : Text.trim "ΕΙΣ" = "ΕΙΣ" := by decide +kernel
  obtain ⟨hfits, hkeyword⟩ := hfound (by decide) (hkept (.inr (by decide +kernel)))
  obtain ⟨hcontains, hanyOf⟩ := hfits htrim
  exact ⟨htrim, hcontains, hanyOf _ (by decide),
    hkeyword [] (.matching "ΕΙΣ") _ _ rfl rfl (by decide +kernel)⟩

/-- On its own the word ends in a final sigma, and at the start of a longer one it does not. -/
theorem not_found_in_longer_word :
    "ΕΙΣ" ≠ "" ∧ Text.trim "ΕΙΣ" = "ΕΙΣ" ∧
      (Wording.contains "ΕΙΣ").fits ("" ++ "ΕΙΣ" ++ "ΟΔΟΣ") = false ∧
      (Wording.anyOf ["ΕΙΣ"]).fits ("" ++ "ΕΙΣ" ++ "ΟΔΟΣ") = false ∧
      StepFile.load [] .everything "ΕΙΣΟΔΟΣ" = [⟨1, "ΕΙΣΟΔΟΣ", 1⟩] ∧
      StepFile.load [] (.matching "ΕΙΣ") "ΕΙΣΟΔΟΣ" = [] := by
  decide +kernel

end Wording

end Walkthrough
