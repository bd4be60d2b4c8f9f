import Mathlib.Data.List.Basic
import Walkthrough.Proofs.Browser.Effects
import Walkthrough.Proofs.Browser.Trail

namespace Walkthrough

theorem Page.find_sublist {p : Page} {q : Query} {found : List Nat} (h : p.find q = .ok found) :
    found.Sublist p.indices := by
  have hshown : p.shown.Sublist p.indices := List.filter_sublist
  unfold find at h
  split at h
  · obtain rfl := Except.ok.inj h
    exact List.filter_sublist.trans hshown
  · obtain rfl := Except.ok.inj h
    exact List.filter_sublist.trans hshown
  · obtain rfl := Except.ok.inj h
    exact List.filter_sublist.trans hshown
  · obtain rfl := Except.ok.inj h
    exact List.filter_sublist.trans hshown
  · split at h
    · contradiction
    · obtain rfl := Except.ok.inj h
      exact List.filter_sublist.trans List.filter_sublist

theorem Page.lt_size_of_mem_find {p : Page} {q : Query} {found : List Nat} (h : p.find q = .ok found)
    {i : Nat} (hi : i ∈ found) : i < p.size :=
  List.mem_range.mp ((find_sublist h).subset hi)

theorem Page.find_increasing {p : Page} {q : Query} {found : List Nat} (h : p.find q = .ok found) :
    found.Pairwise (· < ·) :=
  List.pairwise_lt_range.sublist (find_sublist h)

theorem Element.attribute?_setAttribute (e : Element) (name value other : String) :
    (e.setAttribute name value).attribute? other =
      if Text.lowercase other = Text.lowercase name then some value else e.attribute? other := by
  unfold setAttribute attribute?
  dsimp only
  generalize Text.lowercase name = key
  generalize Text.lowercase other = asked
  by_cases hkey : (e.attributes.lookup key).isSome
  · rw [if_pos hkey, lookup_map]
    obtain ⟨old, hold⟩ := Option.isSome_iff_exists.mp hkey
    rw [hold, Option.map_some]
  · rw [if_neg hkey, List.lookup_append]
    by_cases hasked : asked = key
    · have hnone : e.attributes.lookup key = none := Option.not_isSome_iff_eq_none.mp hkey
      simp [hasked, hnone]
    · have hne : (asked == key) = false := beq_eq_false_iff_ne.mpr hasked
      simp [hasked, hne, List.lookup_cons]

namespace Page

variable (p : Page) (fills : List (Nat × String))

theorem element?_filled (i : Nat) :
    (p.filled fills).element? i =
      (p.element? i).map fun e => ((fills.lookup i).map (e.setAttribute "value")).getD e := by
  unfold filled element?
  dsimp only
  rw [List.getElem?_mapIdx]
  cases fills.lookup i <;> rfl

theorem size_filled : (p.filled fills).size = p.size :=
  List.length_mapIdx

/-- Entering values changes no tag, no text and no parent. -/
theorem frame_filled (i : Nat) {α : Type} (f : Element → α)
    (hf : ∀ (e : Element) (value : String), f (e.setAttribute "value" value) = f e) :
    ((p.filled fills).element? i).map f = (p.element? i).map f := by
  rw [element?_filled, Option.map_map]
  congr 1
  funext e
  show f _ = f e
  cases fills.lookup i with
  | none => rfl
  | some value => exact hf e value

theorem hasTag_filled (i : Nat) (tag : String) :
    (p.filled fills).hasTag i tag = p.hasTag i tag := by
  have hsame := p.frame_filled fills i (·.tag) fun e value =>
    (e.setAttribute_frame "value" value).1
  unfold hasTag
  cases hold : p.element? i <;> cases hnew : (p.filled fills).element? i <;> simp_all

theorem ownText_filled (i : Nat) : (p.filled fills).ownText i = p.ownText i := by
  have hsame := p.frame_filled fills i (·.text) fun e value =>
    (e.setAttribute_frame "value" value).2.1
  unfold ownText
  cases hold : p.element? i <;> cases hnew : (p.filled fills).element? i <;> simp_all

theorem parent?_filled (i : Nat) : (p.filled fills).parent? i = p.parent? i := by
  have hsame := p.frame_filled fills i (·.parent) fun e value =>
    (e.setAttribute_frame "value" value).2.2
  unfold parent?
  cases hold : p.element? i <;> cases hnew : (p.filled fills).element? i <;> simp_all

theorem children_filled (i : Nat) : (p.filled fills).children i = p.children i := by
  unfold children indices
  simp only [size_filled, parent?_filled]

theorem textContent_filled (i : Nat) : (p.filled fills).textContent i = p.textContent i := by
  have hwithin (n i : Nat) : (p.filled fills).textWithin n i = p.textWithin n i := by
    induction n generalizing i with
    | zero => rfl
    | succ n ih =>
      unfold textWithin
      rw [ownText_filled, children_filled, List.map_congr_left fun j _ => ih j]
  unfold textContent
  rw [size_filled, hwithin]

theorem attribute?_filled {i : Nat} {e : Element} (he : p.element? i = some e) (name : String) :
    (p.filled fills).attribute? i name =
      if Text.lowercase name = "value" then (fills.lookup i).or (e.attribute? name)
      else e.attribute? name := by
  have hvalue : Text.lowercase "value" = "value" := by decide
  unfold attribute?
  rw [element?_filled, he]
  show (((fills.lookup i).map (e.setAttribute "value")).getD e).attribute? name = _
  cases fills.lookup i with
  | none => simp
  | some value =>
    show (e.setAttribute "value" value).attribute? name = _
    rw [Element.attribute?_setAttribute, hvalue]
    rfl

theorem filled_filled (later : List (Nat × String)) :
    (p.filled fills).filled later = p.filled (later ++ fills) := by
  induction later with
  | nil => exact filled_nil _
  | cons fill later ih =>
    obtain ⟨i, value⟩ := fill
    rw [List.cons_append, filled_cons, filled_cons, ih]

end Page

namespace Browser

variable {b : Browser} {h : Handle}

/-- No call of a sequence loads a page: it navigates to nothing that can be parsed, goes back from
nowhere but the first page, and clicks nothing that leads anywhere. -/
def stays (b : Browser) : List Call → Bool
  | [] => true
  | c :: rest => (b.loads? c).isNone && (b.respond c).2.stays rest

def fill? (b : Browser) : Call → Option (Nat × String)
  | .fill h value => if b.isLive h then some (h.id, value) else none
  | _ => none

def fills (b : Browser) (calls : List Call) : List (Nat × String) :=
  (calls.filterMap b.fill?).reverse

theorem page_respond {c : Call} (hload : b.loads? c = none) :
    (b.respond c).2.page = b.page.filled (b.fill? c).toList := by
  have hkept : b.page.filled [] = b.page := b.page.filled_nil
  cases c with
  | navigate url =>
    unfold loads? at hload
    unfold respond
    dsimp only at hload ⊢
    cases hparse : Url.parse url with
    | error e => exact hkept.symm
    | ok u => simp [hparse, Except.isOk, Except.toBool] at hload
  | goBack =>
    have hhistory : b.history = [] := by simpa [loads?] using hload
    rw [respond_goBack_of_nil hhistory]
    exact hkept.symm
  | query q =>
    rw [query_leaves]
    exact hkept.symm
  | click h =>
    unfold respond withElement
    dsimp only
    by_cases hlive : b.isLive h
    · have hlink : b.linkTarget? h.id = none := by simpa [loads?, hlive] using hload
      rw [if_pos hlive, hlink]
      exact hkept.symm
    · rw [if_neg hlive]
      exact hkept.symm
  | fill h value =>
    unfold respond withElement fill?
    dsimp only
    by_cases hlive : b.isLive h
    · rw [if_pos hlive, if_pos hlive]
      show (b.setValue h.id value).page = b.page.filled [(h.id, value)]
      rw [Page.filled_cons, hkept]
      rfl
    · rw [if_neg hlive, if_neg hlive]
      exact hkept.symm
  | press | text | attributeOf | inputValue =>
    unfold respond withElement
    dsimp only
    split <;> exact hkept.symm
  | screenshot | request | currentUrl | loadTiming | images | viewport => exact hkept.symm

section Filled

variable {b' : Browser} {fills : List (Nat × String)} (hpage : b'.page = b.page.filled fills)
include hpage

theorem isLive_of_filled (h : Handle) : b'.isLive h = b.isLive h := by
  unfold isLive
  rw [hpage, Page.hasTag_filled]

theorem fill?_of_filled : b'.fill? = b.fill? := by
  funext c
  cases c with
  | fill h value =>
    unfold fill?
    dsimp only
    rw [isLive_of_filled hpage]
  | _ => rfl

/-- A value is never a reference, so links lead where they led. -/
theorem linkTarget?_of_filled (hurl : b'.url = b.url) {i : Nat} {e : Element}
    (he : b.page.element? i = some e) : b'.linkTarget? i = b.linkTarget? i := by
  have hhref : (b.page.filled fills).attribute? i "href" = b.page.attribute? i "href" := by
    rw [Page.attribute?_filled _ _ he, if_neg (by decide)]
    unfold Page.attribute?
    rw [he]
    rfl
  unfold linkTarget?
  rw [hpage, hurl, Page.hasTag_filled, hhref]

end Filled

theorem afterCalls_of_stays {calls : List Call} (hstays : b.stays calls) :
    (b.afterCalls calls).page = b.page.filled (b.fills calls) ∧
      (b.afterCalls calls).url = b.url := by
  induction calls generalizing b with
  | nil => exact ⟨b.page.filled_nil.symm, rfl⟩
  | cons c rest ih =>
    obtain ⟨hload, hrest⟩ := (Bool.and_eq_true_iff).mp hstays
    have hnone : b.loads? c = none := Option.isNone_iff_eq_none.mp hload
    have hpage : (b.respond c).2.page = b.page.filled (b.fill? c).toList := page_respond hnone
    have hurl : (b.respond c).2.url = b.url := by
      rw [(b.follows_respond c).url, hnone]
      rfl
    have hfills : b.fills (c :: rest) = (b.respond c).2.fills rest ++ (b.fill? c).toList := by
      unfold fills
      rw [fill?_of_filled hpage, List.filterMap_cons]
      cases b.fill? c <;> simp
    obtain ⟨hlast, hsame⟩ := ih hrest
    rw [hfills, ← Page.filled_filled, ← hpage]
    exact ⟨hlast, hsame.trans hurl⟩

theorem isLive_of_found {q : Query} {found : List Nat} (hfind : b.page.find q = .ok found)
    (hh : h ∈ b.handles found) : b.isLive h := by
  obtain ⟨i, hi, rfl⟩ := List.mem_map.mp hh
  have hsize : i < b.page.elements.length := Page.lt_size_of_mem_find hfind hi
  unfold isLive Page.hasTag Page.element?
  dsimp only
  rw [List.getElem?_eq_getElem hsize]
  simp

theorem ids_handles (b : Browser) (found : List Nat) : (b.handles found).map (·.id) = found := by
  unfold handles
  rw [List.map_map]
  exact List.map_id found

theorem respond_query_of_find {q : Query} {found : List Nat} (h : b.page.find q = .ok found) :
    b.respond (.query q) = (.ok (b.handles found), b) := by
  unfold respond
  dsimp only
  rw [h]

theorem find_of_respond {q : Query} {found : List Handle}
    (hq : (b.respond (.query q)).1 = .ok found) :
    ∃ ids, b.page.find q = .ok ids ∧ found = b.handles ids := by
  unfold respond at hq
  dsimp only at hq
  cases hfind : b.page.find q with
  | error e =>
    rw [hfind] at hq
    contradiction
  | ok ids =>
    rw [hfind] at hq
    exact ⟨ids, rfl, (Except.ok.inj hq).symm⟩

/-- A browser still takes a handle for the element that another one, some calls before, has under
it: whatever is asked with the handle is answered for this element, which has what it had then
except for the value last entered into it. -/
structure Keeps (b : Browser) (h : Handle) (e : Element) (entered : Option String)
    (b' : Browser) : Prop where
  /-- A click follows the link that the element was. -/
  click : b'.respond (.click h) =
    (.ok (), (b'.enter (.click h.id)).follow (b.linkTarget? h.id))
  fill : ∀ value, b'.respond (.fill h value) =
    (.ok (), (b'.setValue h.id value).enter (.fill h.id value))
  press : ∀ key, b'.respond (.press h key) = (.ok (), b'.enter (.press h.id key))
  text : b'.respond (.text h) = (.ok (b.page.textContent h.id), b')
  attributeOf : ∀ name, b'.respond (.attributeOf h name) =
    (.ok (if Text.lowercase name = "value" then entered.or (e.attribute? name)
      else e.attribute? name), b')
  inputValue : b'.respond (.inputValue h) =
    (.ok (entered.getD ((e.attribute? "value").getD "")), b')

theorem keeps_of_filled {b' : Browser} {e : Element} {fills : List (Nat × String)}
    (hpage : b'.page = b.page.filled fills) (hurl : b'.url = b.url)
    (he : b.page.element? h.id = some e) (htag : e.tag = h.tag) :
    b.Keeps h e (fills.lookup h.id) b' := by
  have hlive : b'.isLive h := by
    rw [isLive_of_filled hpage]
    unfold isLive Page.hasTag
    simp [he, htag]
  have hattribute (name : String) := Page.attribute?_filled b.page fills he name
  refine ⟨?_, fun value => withElement_of_isLive hlive _, fun key => withElement_of_isLive hlive _,
    ?_, fun name => ?_, ?_⟩
  · rw [← linkTarget?_of_filled hpage hurl he]
    exact withElement_of_isLive hlive _
  · rw [← Page.textContent_filled b.page fills, ← hpage]
    exact withElement_of_isLive hlive _
  · rw [← hattribute, ← hpage]
    exact withElement_of_isLive hlive _
  · have hvalue := hattribute "value"
    rw [if_pos (by decide)] at hvalue
    have hinput : (b'.page.attribute? h.id "value").getD "" =
        (fills.lookup h.id).getD ((e.attribute? "value").getD "") := by
      rw [hpage, hvalue]
      cases fills.lookup h.id <;> rfl
    rw [← hinput]
    exact withElement_of_isLive hlive _

/-- What a query returns are handles of elements of the page, in document order and with their tags.
After any calls that load no page, the page is as it was but for the values entered, and each of the
handles is accepted for the same element, whose value is the one last entered into it, if any. -/
theorem handles_stay_live (b : Browser) (q : Query) (found : List Handle)
    (hq : (b.respond (.query q)).1 = .ok found) :
    found.Pairwise (·.id < ·.id) ∧
      (∀ calls, b.stays calls → (b.afterCalls calls).page = b.page.filled (b.fills calls)) ∧
      ∀ h ∈ found, ∃ e, b.page.element? h.id = some e ∧ e.tag = h.tag ∧
        ∀ calls, b.stays calls →
          b.Keeps h e ((b.fills calls).lookup h.id) (b.afterCalls calls) := by
  obtain ⟨ids, hfind, rfl⟩ := find_of_respond hq
  have hincreasing : ((b.handles ids).map (·.id)).Pairwise (· < ·) := by
    rw [ids_handles]
    exact Page.find_increasing hfind
  refine ⟨List.pairwise_map.mp hincreasing, fun calls hstays => (afterCalls_of_stays hstays).1,
    fun h hh => ?_⟩
  obtain ⟨e, he, htag⟩ := element?_of_isLive (isLive_of_found hfind hh)
  refine ⟨e, he, htag, fun calls hstays => ?_⟩
  obtain ⟨hpage, hurl⟩ := afterCalls_of_stays hstays
  exact keeps_of_filled hpage hurl he htag

/-- Two fields of a form are found. What is entered through a handle with another tag is refused, so
the first field has the second value that was entered into it, and the other one its own value. -/
theorem handles_stay_live_form :
    let form : Page := ⟨[⟨"form", [], "", none, false⟩, ⟨"input", [("value", "1")], "", some 0, false⟩,
      ⟨"button", [], "Go", some 0, false⟩, ⟨"input", [("value", "2")], "", some 0, false⟩],
      [], [], ⟨0, 0⟩⟩
    let b : Browser := { Browser.start Site.empty with page := form }
    let calls : List Call := [.fill ⟨1, "input"⟩ "3", .press ⟨1, "input"⟩ "Enter", .goBack,
      .fill ⟨1, "input"⟩ "4", .click ⟨2, "button"⟩, .fill ⟨1, "select"⟩ "5", .navigate "/"]
    let found : List Handle := [⟨1, "input"⟩, ⟨3, "input"⟩]
    (b.respond (.query (.css "form input" none))).1 = .ok found ∧ b.stays calls ∧
      ((b.afterCalls calls).respond (.inputValue ⟨1, "input"⟩)).1 = .ok "4" ∧
      ((b.afterCalls calls).respond (.inputValue ⟨3, "input"⟩)).1 = .ok "2" := by
  intro form b calls found
  have hfound : (b.respond (.query (.css "form input" none))).1 = .ok found := by decide +kernel
  have hstays : b.stays calls := by decide +kernel
  obtain ⟨-, -, hlive⟩ := handles_stay_live b _ found hfound
  obtain ⟨first, hfirst, -, hkept⟩ := hlive ⟨1, "input"⟩ (by simp [found])
  obtain ⟨second, hsecond, -, hother⟩ := hlive ⟨3, "input"⟩ (by simp [found])
  obtain rfl := Option.some.inj hfirst
  obtain rfl := Option.some.inj hsecond
  refine ⟨hfound, hstays, ?_, ?_⟩
  · rw [(hkept calls hstays).inputValue]
    decide +kernel
  · rw [(hother calls hstays).inputValue]
    decide +kernel

end Browser

end Walkthrough
