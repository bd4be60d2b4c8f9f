import Walkthrough.Proofs.Browser.Effects

namespace Walkthrough.Browser

/-- What becomes of a browser when something entered in a journal is done again. -/
def redo (b : Browser) : Interaction → Browser
  | .navigate url => (b.enter (.navigate url)).visit url
  | .goBack => (b.respond .goBack).2
  | .click i => (b.enter (.click i)).follow (b.linkTarget? i)
  | .fill i value => (b.setValue i value).enter (.fill i value)
  | i => b.enter i

def redone (b : Browser) (journal : List Interaction) : Browser :=
  journal.foldl redo b

theorem redone_append (b : Browser) (before after : List Interaction) :
    b.redone (before ++ after) = (b.redone before).redone after :=
  List.foldl_append

theorem journal_redo (b : Browser) (i : Interaction) : (b.redo i).journal = b.journal ++ [i] := by
  cases i with
  | goBack =>
    unfold redo
    dsimp only
    cases hhistory : b.history with
    | nil => rw [respond_goBack_of_nil hhistory, enter]
    | cons last earlier => rw [respond_goBack_of_cons hhistory, load, enter]
  | click i =>
    show ((b.enter (.click i)).follow (b.linkTarget? i)).journal = _
    cases b.linkTarget? i <;> rfl
  | navigate | fill | press | screenshot | request => rfl

theorem journal_redone (b : Browser) (journal : List Interaction) :
    (b.redone journal).journal = b.journal ++ journal := by
  induction journal generalizing b with
  | nil => exact (List.append_nil _).symm
  | cons i rest ih =>
    have hrest : (b.redone (i :: rest)).journal = (b.redo i).journal ++ rest := ih (b.redo i)
    rw [hrest, journal_redo, List.append_assoc, List.singleton_append]

theorem redone_withElement {b b' : Browser} {h : Handle} (a : α) (hb : ∃ made, b' = b.redone made) :
    ∃ made, (b.withElement h (a, b')).2 = b.redone made := by
  unfold withElement
  split
  · exact hb
  · exact ⟨[], rfl⟩

/-- A call makes of a browser what becomes of it when the entry of the call is done again. -/
theorem redone_respond (b : Browser) (c : Call) : ∃ made, (b.respond c).2 = b.redone made := by
  cases c with
  | navigate url =>
    obtain ⟨e, -, hnav⟩ | ⟨key, hnav⟩ := b.respond_navigate url
    · rw [hnav]
      exact ⟨[], rfl⟩
    · rw [hnav]
      exact ⟨[.navigate key], rfl⟩
  | goBack => exact ⟨[.goBack], rfl⟩
  | query q =>
    rw [query_leaves]
    exact ⟨[], rfl⟩
  | click h => exact redone_withElement () ⟨[.click h.id], rfl⟩
  | fill h value => exact redone_withElement () ⟨[.fill h.id value], rfl⟩
  | press h key => exact redone_withElement () ⟨[.press h.id key], rfl⟩
  | text | attributeOf | inputValue => exact redone_withElement _ ⟨[], rfl⟩
  | screenshot path fullPage => exact ⟨[.screenshot path fullPage], rfl⟩
  | request method url needed => exact ⟨[.request method (Url.normalize url)], rfl⟩
  | currentUrl | loadTiming | images | viewport => exact ⟨[], rfl⟩

/-- The URL of the document that is loaded when something is done again. -/
def document? (b : Browser) : Interaction → Option String
  | .navigate url => some url
  | .goBack => b.loads? .goBack
  | .click i => (b.linkTarget? i).map Url.normalize
  | _ => none

/-- The URLs of the documents that are loaded when the entries of a journal are done again. -/
def documents (b : Browser) : List Interaction → List String
  | [] => []
  | i :: rest => (b.document? i).toList ++ (b.redo i).documents rest

theorem follows_redo (b : Browser) (i : Interaction) : b.Follows (b.document? i) (b.redo i) := by
  cases i with
  | navigate url => exact b.follows_visit _ url
  | goBack => exact b.follows_respond .goBack
  | click i => exact b.follows_follow (.click i) (b.linkTarget? i)
  | fill | press | screenshot | request => exact follows_none rfl rfl rfl

/-- As long as no document is loaded, the URL stays and nothing is reported. -/
theorem redone_of_no_documents {b : Browser} {journal : List Interaction}
    (h : b.documents journal = []) :
    (b.redone journal).url = b.url ∧ (b.redone journal).events = b.events := by
  induction journal generalizing b with
  | nil => exact ⟨rfl, rfl⟩
  | cons i rest ih =>
    obtain ⟨hfirst, hlater⟩ := List.append_eq_nil_iff.mp h
    have hnone : b.document? i = none := by simpa using hfirst
    have hfollows := b.follows_redo i
    rw [hnone] at hfollows
    obtain ⟨hurl, hevents⟩ := ih hlater
    have hreports : (b.redo i).events = b.events := by simpa using hfollows.events
    exact ⟨hurl.trans hfollows.url, hevents.trans hreports⟩

theorem site_redone (b : Browser) (journal : List Interaction) :
    (b.redone journal).site = b.site := by
  induction journal generalizing b with
  | nil => rfl
  | cons i rest ih => exact (ih _).trans (b.follows_redo i).site

/-- Where the last document was loaded by a navigation, it is shown and what its load reported came
last. -/
theorem redone_navigate (b : Browser) (earlier : List Interaction) {url : String}
    {more : List Interaction} (h : (b.redone (earlier ++ [.navigate url])).documents more = []) :
    let after := b.redone (earlier ++ .navigate url :: more)
    after.url = url ∧ ∃ before, after.events = before ++ reports url (b.site.route url) := by
  intro after
  have hsplit : after = (b.redone (earlier ++ [.navigate url])).redone more := by
    rw [← redone_append, List.append_assoc]
    rfl
  have hvisited : b.redone (earlier ++ [.navigate url]) =
      ((b.redone earlier).enter (.navigate url)).visit url :=
    b.redone_append earlier [.navigate url]
  obtain ⟨hurl, hevents⟩ := redone_of_no_documents h
  rw [hsplit, hurl, hevents, hvisited, ← b.site_redone earlier]
  exact ⟨rfl, (b.redone earlier).events, rfl⟩

end Walkthrough.Browser
