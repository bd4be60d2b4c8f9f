import Walkthrough.Browser.Call
import Walkthrough.Url.Parser

namespace Walkthrough

structure Route where
  status : Nat
  page : Page
  deriving Repr, DecidableEq

/-- Pages and bare statuses by normal URL; any other URL has an empty page. -/
structure Site where
  routes : List (String × Route)
  statuses : List (String × Nat)
  fallback : Nat
  deriving Repr, DecidableEq

namespace Site

def empty : Site :=
  ⟨[], [], 404⟩

/-- A later route for a URL takes the place of an earlier one. -/
def addRoute (s : Site) (url : String) (status : Nat) (page : Page) : Site :=
  { s with routes := (Url.normalize url, ⟨status, page⟩) :: s.routes }

/-- The status that bare requests for a URL get, whatever its route says. -/
def addStatus (s : Site) (url : String) (status : Nat) : Site :=
  { s with statuses := (Url.normalize url, status) :: s.statuses }

def route (s : Site) (key : String) : Route :=
  (s.routes.lookup key).getD ⟨s.fallback, Page.blank⟩

def requestStatus (s : Site) (key : String) : Nat :=
  (s.statuses.lookup key).getD (s.route key).status

end Site

/-- What a session did. -/
inductive Interaction
  | navigate (url : String)
  | goBack
  | click (element : Nat)
  | fill (element : Nat) (value : String)
  | press (element : Nat) (key : String)
  | screenshot (path : String) (fullPage : Bool)
  | request (method : HttpMethod) (url : String)
  deriving Repr, DecidableEq

/-- A browser in memory. Loading a page is all that reports anything; whatever acts on the page, the
history or the outside is entered in the journal. -/
structure Browser where
  site : Site
  url : String
  page : Page
  /-- The URLs to go back to, the latest first. -/
  history : List String
  /-- In the order in which things were done. -/
  journal : List Interaction
  /-- In the order in which they were reported. -/
  events : List Event
  deriving Repr, DecidableEq

namespace Browser

def start (site : Site) : Browser :=
  ⟨site, "about:blank", Page.blank, [], [], []⟩

def enter (b : Browser) (i : Interaction) : Browser :=
  { b with journal := b.journal ++ [i] }

/-- What loading a page reports: the response for the document, those for its resources, then its
console messages. -/
def reports (key : String) (r : Route) : List Event :=
  .response ⟨key, r.status, .document⟩ ::
    (r.page.resources.map .response ++ r.page.console.map .console)

def load (b : Browser) (key : String) : Browser :=
  let r := b.site.route key
  { b with url := key, page := r.page, events := b.events ++ reports key r }

/-- Loads a page and keeps the way back. -/
def visit (b : Browser) (key : String) : Browser :=
  { b.load key with history := b.url :: b.history }

def isLive (b : Browser) (h : Handle) : Bool :=
  b.page.hasTag h.id h.tag

def stale (h : Handle) : SessionError :=
  ⟨.targetNotFound, some ("stale element <" ++ h.tag ++ "> #" ++ toString h.id)⟩

/-- Where a click on an element leads: a link whose reference can be joined to the current URL. -/
def linkTarget? (b : Browser) (i : Nat) : Option String :=
  if b.page.hasTag i "a" then
    (b.page.attribute? i "href").bind fun href =>
      ((Url.parse b.url).bind (·.join href)).toOption.map Url.toText
  else none

def follow (b : Browser) : Option String → Browser
  | none => b
  | some target => b.visit (Url.normalize target)

def setValue (b : Browser) (i : Nat) (value : String) : Browser :=
  { b with page.elements := b.page.elements.modify i (·.setAttribute "value" value) }

def handles (b : Browser) (found : List Nat) : List Handle :=
  found.map fun i => ⟨i, ((b.page.element? i).map (·.tag)).getD ""⟩

def imageStates (b : Browser) : List ImageState :=
  (b.page.elements.filter (·.tag == "img")).map fun e =>
    ⟨(e.attribute? "src").getD "", !e.broken, if e.broken then 0 else 100⟩

def withElement (b : Browser) (h : Handle) (act : α × Browser) : Except SessionError α × Browser :=
  if b.isLive h then (.ok act.1, act.2) else (.error (stale h), b)

def viewport : Nat × Nat :=
  (1280, 800)

def respond (b : Browser) : (c : Call) → Except SessionError c.Answer × Browser
  | .navigate url =>
    match Url.parse url with
    | .error _ => (.error ⟨.connection, some ("invalid url: " ++ url)⟩, b)
    | .ok u =>
      let key := u.toText
      (.ok ⟨key, some (b.site.route key).status⟩, (b.enter (.navigate key)).visit key)
  | .currentUrl => (.ok b.url, b)
  | .goBack =>
    let b := b.enter .goBack
    match b.history with
    | [] => (.ok (), b)
    | last :: earlier => (.ok (), { b with history := earlier }.load (Url.normalize last))
  | .query q =>
    match b.page.find q with
    | .error e => (.error e, b)
    | .ok found => (.ok (b.handles found), b)
  | .click h => b.withElement h ((), (b.enter (.click h.id)).follow (b.linkTarget? h.id))
  | .fill h value => b.withElement h ((), (b.setValue h.id value).enter (.fill h.id value))
  | .press h key => b.withElement h ((), b.enter (.press h.id key))
  | .text h => b.withElement h (b.page.textContent h.id, b)
  | .attributeOf h name => b.withElement h (b.page.attribute? h.id name, b)
  | .inputValue h => b.withElement h ((b.page.attribute? h.id "value").getD "", b)
  | .screenshot path fullPage => (.ok (), b.enter (.screenshot path fullPage))
  | .request method url _ =>
    let key := Url.normalize url
    (.ok (b.site.requestStatus key), b.enter (.request method key))
  | .loadTiming => (.ok b.page.timing, b)
  | .images => (.ok b.imageStates, b)
  | .viewport => (.ok (some viewport), b)

instance : Host Browser where
  respond c b := b.respond c
  events := (·.events)
  browserName := "in-memory"

end Browser

end Walkthrough
