import Walkthrough.Proofs.Browser.Handles

namespace Walkthrough

namespace Selector

def AttributeTest.asksValue (t : AttributeTest) : Bool :=
  Text.lowercase t.name == "value"

namespace Compound

mutual

def asksValue : Compound → Bool
  | tests _ _ _ attributes excluded =>
    attributes.any (·.asksValue) || anyAsksValue excluded

def anyAsksValue : List Compound → Bool
  | [] => false
  | c :: rest => c.asksValue || anyAsksValue rest

end

end Compound

namespace Complex

def asksValue : Complex → Bool
  | one c => c.asksValue
  | within outer _ c => outer.asksValue || c.asksValue

end Complex

section Element

variable (e : Element) (value : String)

theorem attribute?_setValue {name : String} (h : Text.lowercase name ≠ "value") :
    (e.setAttribute "value" value).attribute? name = e.attribute? name := by
  have hvalue : Text.lowercase "value" = "value" := by decide
  rw [Element.attribute?_setAttribute, hvalue, if_neg h]

theorem AttributeTest.fits_setValue {t : AttributeTest} (h : t.asksValue = false) :
    t.fits (e.setAttribute "value" value) = t.fits e := by
  unfold fits
  rw [attribute?_setValue e value (beq_eq_false_iff_ne.mp h)]

theorem tagFits_setValue (wanted : Option String) :
    tagFits wanted (e.setAttribute "value" value) = tagFits wanted e := by
  unfold tagFits
  rw [(e.setAttribute_frame "value" value).1]

theorem idFits_setValue (wanted : Option String) :
    idFits wanted (e.setAttribute "value" value) = idFits wanted e := by
  unfold idFits
  rw [attribute?_setValue e value (by decide)]

theorem classesFit_setValue (wanted : List String) :
    classesFit wanted (e.setAttribute "value" value) = classesFit wanted e := by
  unfold classesFit
  rw [attribute?_setValue e value (by decide)]

mutual

/-- What is entered into an element makes no difference where it is not asked for. -/
theorem Compound.fits_setValue (c : Compound) (h : c.asksValue = false) :
    c.fits (e.setAttribute "value" value) = c.fits e := by
  match c with
  | tests tag id classes attributes excluded =>
    rw [asksValue, Bool.or_eq_false_iff] at h
    have hnone : ∀ t ∈ attributes, t.asksValue = false := by simpa using h.1
    have hall : attributes.all (·.fits (e.setAttribute "value" value)) =
        attributes.all (·.fits e) := by
      rw [Bool.eq_iff_iff, List.all_eq_true, List.all_eq_true]
      exact forall₂_congr fun t ht => by rw [AttributeTest.fits_setValue e value (hnone t ht)]
    rw [fits, fits, tagFits_setValue, idFits_setValue, classesFit_setValue, hall,
      anyFits_setValue excluded h.2]

theorem Compound.anyFits_setValue (l : List Compound) (h : anyAsksValue l = false) :
    anyFits l (e.setAttribute "value" value) = anyFits l e := by
  match l with
  | [] => rfl
  | c :: rest =>
    rw [anyAsksValue, Bool.or_eq_false_iff] at h
    rw [anyFits, anyFits, fits_setValue c h.1, anyFits_setValue rest h.2]

end

end Element

end Selector

namespace Page

variable (p : Page) (fills : List (Nat × String))

theorem ancestors_filled (i : Nat) : (p.filled fills).ancestors i = p.ancestors i := by
  have hwithin (n i : Nat) : (p.filled fills).ancestorsWithin n i = p.ancestorsWithin n i := by
    induction n generalizing i with
    | zero => rfl
    | succ n ih =>
      unfold ancestorsWithin
      rw [parent?_filled]
      cases p.parent? i with
      | none => rfl
      | some j => exact congrArg (List.cons j) (ih j)
  unfold ancestors
  rw [size_filled, hwithin]

theorem compound_fits_filled {c : Selector.Compound} (h : c.asksValue = false) (i : Nat) :
    ((p.filled fills).element? i).any c.fits = (p.element? i).any c.fits := by
  have hsame := p.frame_filled fills i c.fits fun e value => c.fits_setValue e value h
  simpa [Option.any_map] using congrArg (Option.any id) hsame

theorem complex_fits_filled {c : Selector.Complex} (h : c.asksValue = false) (i : Nat) :
    c.fits (p.filled fills) i = c.fits p i := by
  -- the outer part is matched at other elements, so the induction is for all of them
  induction c generalizing i with
  | one c => exact p.compound_fits_filled fills h i
  | within outer link c ih =>
    obtain ⟨houter, hinner⟩ := Bool.or_eq_false_iff.mp h
    have houter : outer.fits (p.filled fills) = outer.fits p := funext fun j => ih houter j
    unfold Selector.Complex.fits
    rw [p.compound_fits_filled fills hinner, parent?_filled, ancestors_filled, houter]

/-- A selector that does not ask for values finds the same elements whatever values were entered. -/
theorem find_filled {source : String}
    (h : (Selector.parse source).toOption.all (·.all fun c => !c.asksValue))
    (hasText : Option Wording) :
    (p.filled fills).find (.css source hasText) = p.find (.css source hasText) := by
  unfold find
  dsimp only
  cases hparse : Selector.parse source with
  | error f => rfl
  | ok selector =>
    have hnone : ∀ c ∈ selector, c.asksValue = false := by
      simpa [hparse, Except.toOption] using h
    have hfits : selector.fits (p.filled fills) = selector.fits p := by
      funext i
      rw [Bool.eq_iff_iff, Selector.fits, Selector.fits, List.any_eq_true, List.any_eq_true]
      exact exists_congr fun c => and_congr_right fun hc => by
        rw [p.complex_fits_filled fills (hnone c hc)]
    unfold Selector.select indices
    simp only [hfits, size_filled, textContent_filled]

end Page

end Walkthrough
