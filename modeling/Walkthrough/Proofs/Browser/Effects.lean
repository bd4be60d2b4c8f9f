import Walkthrough.Proofs.Browser.Turns

namespace Walkthrough

def Call.entry? : Call → Option Interaction
  | navigate url => some (.navigate (Url.normalize url))
  | goBack => some .goBack
  | click h => some (.click h.id)
  | fill h value => some (.fill h.id value)
  | press h key => some (.press h.id key)
  | screenshot path fullPage => some (.screenshot path fullPage)
  | request method url _ => some (.request method (Url.normalize url))
  | currentUrl | query _ | text _ | attributeOf _ _ | inputValue _ => none
  | loadTiming | images | viewport => none

namespace Browser

variable {b b' : Browser}

/-- What came of something done to a browser: it failed and left the browser as it was, or it
succeeded and the journal goes on with its entry. -/
inductive Settled (b : Browser) (entry : Option Interaction) : Except SessionError α × Browser → Prop
  | failed (e : SessionError) : b.Settled entry (.error e, b)
  | entered (a : α) (after : Browser) (h : after.journal = b.journal ++ entry.toList) :
    b.Settled entry (.ok a, after)

variable {entry : Option Interaction}

theorem Settled.of_enter {after : Browser} {i : Interaction} (a : α)
    (h : after.journal = (b.enter i).journal) : b.Settled (some i) (.ok a, after) :=
  .entered a after h

theorem settled_look (a : α) : b.Settled none (.ok a, b) :=
  .entered a b (List.append_nil _).symm

theorem settled_withElement {h : Handle} {act : α × Browser}
    (hact : b.Settled entry (.ok act.1, act.2)) : b.Settled entry (b.withElement h act) := by
  unfold withElement
  split
  · exact hact
  · exact .failed _

theorem settled_respond (b : Browser) (c : Call) : b.Settled c.entry? (b.respond c) := by
  cases c with
  | navigate url =>
    unfold respond Call.entry? Url.normalize
    dsimp only
    cases Url.parse url with
    | error e => exact .failed _
    | ok u => exact .of_enter _ rfl
  | goBack =>
    cases hhistory : b.history with
    | nil =>
      rw [respond_goBack_of_nil hhistory]
      exact .of_enter _ rfl
    | cons last earlier =>
      rw [respond_goBack_of_cons hhistory]
      exact .of_enter _ rfl
  | query q =>
    unfold respond
    dsimp only
    cases b.page.find q with
    | error e => exact .failed e
    | ok found => exact settled_look _
  | click h =>
    refine settled_withElement (.of_enter () ?_)
    -- following a link adds nothing to what is entered for the click
    cases b.linkTarget? h.id <;> rfl
  | fill | press => exact settled_withElement (.of_enter () rfl)
  | text | attributeOf | inputValue => exact settled_withElement (settled_look _)
  | screenshot | request => exact .of_enter _ rfl
  | currentUrl | loadTiming | images | viewport => exact settled_look _

theorem Settled.eq_of_error {r : Except SessionError α × Browser} (hr : b.Settled entry r)
    {e : SessionError} (h : r.1 = .error e) : r.2 = b := by
  cases hr with
  | failed e => rfl
  | entered a after hjournal => contradiction

theorem Settled.journal_of_ok {r : Except SessionError α × Browser} (hr : b.Settled entry r)
    {a : α} (h : r.1 = .ok a) : r.2.journal = b.journal ++ entry.toList := by
  cases hr with
  | failed e => contradiction
  | entered a after hjournal => exact hjournal

/-- The normal URL of the page that a call loads: it navigates to what can be parsed, goes back to
where there is something to go back to, or clicks an element that leads somewhere. -/
def loads? (b : Browser) : Call → Option String
  | .navigate url => if (Url.parse url).isOk then some (Url.normalize url) else none
  | .goBack => b.history.head?.map Url.normalize
  | .click h => if b.isLive h then (b.linkTarget? h.id).map Url.normalize else none
  | _ => none

/-- A call that loads a page shows it and reports it; any other call leaves the URL as it is and
reports nothing. -/
structure Follows (b : Browser) (load : Option String) (b' : Browser) : Prop where
  site : b'.site = b.site
  url : b'.url = load.getD b.url
  page : ∀ key ∈ load, b'.page = (b.site.route key).page
  events : b'.events = b.events ++ load.toList.flatMap fun key => reports key (b.site.route key)

theorem follows_some {key : String} (hsite : b'.site = b.site)
    (hurl : b'.url = key) (hpage : b'.page = (b.site.route key).page)
    (hevents : b'.events = b.events ++ reports key (b.site.route key)) :
    b.Follows (some key) b' where
  site := hsite
  url := hurl
  page := by simpa using hpage
  events := by simpa using hevents

theorem follows_none (hsite : b'.site = b.site) (hurl : b'.url = b.url)
    (hevents : b'.events = b.events) : b.Follows none b' where
  site := hsite
  url := hurl
  page := by simp
  events := by simp [hevents]

theorem follows_visit (b : Browser) (i : Interaction) (key : String) :
    b.Follows (some key) ((b.enter i).visit key) :=
  follows_some rfl rfl rfl rfl

theorem follows_follow (b : Browser) (i : Interaction) (target : Option String) :
    b.Follows (target.map Url.normalize) ((b.enter i).follow target) := by
  cases target with
  | none => exact follows_none rfl rfl rfl
  | some target => exact b.follows_visit i (Url.normalize target)

theorem follows_withElement {h : Handle} (a : α)
    (hb : b'.site = b.site ∧ b'.url = b.url ∧ b'.events = b.events) :
    b.Follows none (b.withElement h (a, b')).2 := by
  obtain ⟨hsite, hurl, hevents⟩ := hb
  unfold withElement
  split
  · exact follows_none hsite hurl hevents
  · exact follows_none rfl rfl rfl

theorem follows_respond (b : Browser) (c : Call) : b.Follows (b.loads? c) (b.respond c).2 := by
  cases c with
  | navigate url =>
    unfold respond loads? Url.normalize
    dsimp only
    cases Url.parse url with
    | error e => exact follows_none rfl rfl rfl
    | ok u => exact b.follows_visit _ _
  | goBack =>
    unfold loads?
    cases hhistory : b.history with
    | nil =>
      rw [respond_goBack_of_nil hhistory]
      exact follows_none rfl rfl rfl
    | cons last earlier =>
      rw [respond_goBack_of_cons hhistory]
      exact follows_some rfl rfl rfl rfl
  | click h =>
    unfold respond loads? withElement
    dsimp only
    split
    · exact b.follows_follow _ _
    · exact follows_none rfl rfl rfl
  | query q =>
    rw [query_leaves]
    exact follows_none rfl rfl rfl
  | fill | press | text | attributeOf | inputValue => exact follows_withElement _ ⟨rfl, rfl, rfl⟩
  | screenshot | request | currentUrl | loadTiming | images | viewport =>
    exact follows_none rfl rfl rfl

/-- What fails loads nothing: it leaves the browser as it is, and a load is reported. -/
theorem loads?_of_error {c : Call} {e : SessionError} (h : (b.respond c).1 = .error e) :
    b.loads? c = none := by
  have hsame : (b.respond c).2 = b := (b.settled_respond c).eq_of_error h
  have hevents := (b.follows_respond c).events
  rw [hsame] at hevents
  cases hloads : b.loads? c with
  | none => rfl
  | some key =>
    rw [hloads] at hevents
    simp [reports] at hevents

end Browser

end Walkthrough
