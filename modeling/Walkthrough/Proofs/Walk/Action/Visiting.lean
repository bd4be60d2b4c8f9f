import Mathlib.Tactic.Common
import Walkthrough.Proofs.Walk.Script
import Walkthrough.Walk.Action.Probing
import Walkthrough.Walk.Action.Visiting
import Walkthrough.Walk.Action.Waiting

namespace Walkthrough.Script

variable {t : Terms} [ht : t.Handling]

theorem keeps_request (method : HttpMethod) (url : String) (body : Option Node) :
    Keeps t (fun _ => True) (ask (.request method url body)) :=
  keeps_ask (ht.calls _ nofun nofun)

omit ht in
theorem regular_opened (v : Visit) : (opened v).Regular := by
  unfold opened
  split <;> exact Outcome.regular_passed _

omit ht in
theorem keeps_openHomepage (hv : t.visits) : Keeps t Outcome.Regular openHomepage := by
  refine keeps_settings (fun v w h => ?_) fun s => ?_
  · have hhome : v.settings.homepage = w.settings.homepage := by
      unfold Settings.homepage Settings.base
      rw [h.baseUrl]
    rw [hhome]
  · refine .bind (keeps_ofExcept Settings.isOwn_of_homepage) fun url _ => .bind (.navigate hv url) fun v _ => ?_
    exact .pure (regular_opened v)

omit ht in
theorem keeps_openPath (hv : t.visits) (args : Arguments) :
    Keeps t Outcome.Regular (openPath args) :=
  .bind (.navigate hv _) fun v _ => .pure (regular_opened v)

theorem keeps_visitPage (hv : t.visits) (path : SitePaths → String) (ms : Nat) :
    Keeps t Outcome.Regular (visitPage path ms) := by
  refine keeps_settings (fun v w h => ?_) fun s => ?_
  · rw [h.testData]
  · refine .bind (.navigate hv _) fun v _ => .bind (keeps_settle ms) fun _ _ => ?_
    exact .pure (regular_opened v)

omit ht in
theorem keeps_linksOf [t.Looking] (selector : String) : Keeps t (fun _ => True) (linksOf selector) := by
  refine .bind (keeps_look trivial) fun url _ => .bind (keeps_look trivial) fun found _ => ?_
  refine .bind (keeps_mapM (P := fun _ => True) (fun h => ?_) found) fun references _ => .pure trivial
  exact keeps_look (c := .attributeOf h "href") trivial

omit ht in
theorem keeps_screenshot (hp : t.pictures) (path : String) (fullPage : Bool) :
    Keeps t (fun _ => True) (call (.screenshot path fullPage)) :=
  keeps_call (hp path fullPage)

omit ht in
theorem keeps_visitLink (hv : t.visits) (hp : t.pictures) (address : String) :
    Keeps t (fun _ => True) (visitLink address) := by
  refine .bind (keeps_discard (.navigate hv address)) fun _ _ => ?_
  refine keeps_settings (fun v w h => ?_) fun s => keeps_screenshot hp _ true
  rw [h.screenshots]

omit ht in
theorem keeps_failedVisits (hv : t.visits) (hp : t.pictures) (links : List String) :
    Keeps t (fun _ => True) (failedVisits links) := by
  induction links with
  | nil => exact .pure trivial
  | cons address rest ih =>
    refine .bind (keeps_visitLink hv hp address).attempt fun r _ => ?_
    cases r with
    | ok _ => exact ih
    | error e => exact .bind ih fun _ _ => .pure trivial

theorem keeps_visitMenu (hv : t.visits) (hp : t.pictures) :
    Keeps t Outcome.Regular visitMenu := by
  refine .bind (keeps_linksOf _) fun links _ => ?_
  refine keeps_ite (keeps_warned _) (.bind (keeps_failedVisits hv hp _) fun failed _ => ?_)
  exact keeps_ite (keeps_passed _) (keeps_warned _)

theorem keeps_brokenLinks (links : List String) : Keeps t (fun _ => True) (brokenLinks links) := by
  induction links with
  | nil => exact .pure trivial
  | cons address rest ih =>
    refine .bind (keeps_request _ _ _) fun answer _ => ?_
    cases answer <;> exact .bind ih fun _ _ => .pure trivial

theorem keeps_checkBrokenLinks : Keeps t Outcome.Regular checkBrokenLinks := by
  refine .bind (keeps_linksOf _) fun links _ => .bind (keeps_brokenLinks _) fun broken _ => ?_
  exact keeps_ite (keeps_passed _) (keeps_warned _)

theorem keeps_viewItem (index : Nat) : Keeps t (fun _ => True) (viewItem index) := by
  refine .bind (keeps_look trivial) fun found _ => ?_
  split
  · exact .throw _ trivial
  · refine keeps_clickAndSettle _ _ ?_
    exact .bind (keeps_call (c := .goBack) (ht.calls _ nofun nofun)) fun _ _ => keeps_settle _

theorem keeps_viewItems (indices : List Nat) : Keeps t (fun _ => True) (viewItems indices) := by
  induction indices with
  | nil => exact .pure trivial
  | cons index rest ih =>
    exact .bind (keeps_viewItem index).attempt fun _ _ => .bind ih fun _ _ => .pure trivial

theorem keeps_browseItems : Keeps t Outcome.Regular browseItems := by
  refine .bind (keeps_count _) fun total _ => .bind (keeps_viewItems _) fun viewed _ => ?_
  exact keeps_ite (keeps_passed _) (keeps_warned _)

omit ht in
theorem keeps_takeScreenshot (hp : t.pictures) (args : Arguments) :
    Keeps t Outcome.Regular (takeScreenshot args) := by
  refine keeps_settings (fun v w h => ?_) fun s => ?_
  · rw [h.screenshots]
  · exact .bind (keeps_screenshot hp _ true) fun _ _ => keeps_passed _

theorem keeps_probe (endpoint : Endpoint) : Keeps t Outcome.Regular (probe endpoint) := by
  refine keeps_settings (fun v w h => ?_) fun s => ?_
  · have hresolve (path : String) : v.settings.resolve path = w.settings.resolve path := by
      unfold Settings.resolve Settings.base
      rw [h.baseUrl]
    dsimp only
    rw [h.testData, hresolve]
  · refine .bind (keeps_ofExcept Settings.isOwn_of_resolve) fun url _ => .bind (keeps_request _ _ _) fun answer _ => ?_
    cases answer with
    | ok status => exact keeps_passed _
    | error e => exact keeps_warned _

theorem keeps_currentStatus : Keeps t (fun _ => True) currentStatus := by
  refine keeps_read (fun v w h => ?_) fun v => ?_
  · rw [h.last]
  · split
    · exact .pure trivial
    · refine .bind (keeps_look trivial) fun url _ => ?_
      exact keeps_call (c := .request .get url none) (ht.calls _ nofun nofun)

theorem keeps_checkStatus (args : Arguments) : Keeps t Outcome.Regular (checkStatus args) := by
  unfold checkStatus
  split
  · refine .bind keeps_currentStatus fun actual _ => ?_
    dsimp only
    split
    · exact .bind (.throw (Q := fun _ => True) _ trivial) fun _ _ => keeps_passed _
    · exact keeps_passed _
  · exact .throw _ trivial

theorem keeps_wait (args : Arguments) : Keeps t Outcome.Regular (wait args) := by
  unfold wait
  split
  · exact .bind (keeps_sleep _) fun _ _ => keeps_passed _
  · exact .throw _ trivial

theorem within_lookAtUrl (part : String) : (lookAtUrl part).Within t.calls t.rests := by
  refine ⟨Terms.Looking.looks _ trivial, fun answer => ?_⟩
  cases answer <;> trivial

theorem keeps_awaitText (args : Arguments) : Keeps t Outcome.Regular (awaitText args) := by
  refine keeps_settings (fun v w h => ?_) fun s => ?_
  · dsimp only
    rw [h.awaitText]
  · refine .bind (.lift (Procedure.within_awaitElement ht.rests ?_ _)) fun r _ => ?_
    · exact Terms.Looking.looks _ trivial
    cases r with
    | ok found => exact keeps_passed _
    | error e => exact keeps_ite (.throw _ trivial) (.throw _ trivial)

theorem keeps_expectUrl (args : Arguments) : Keeps t Outcome.Regular (expectUrl args) := by
  refine .bind (.lift (Procedure.within_poll ht.rests (within_lookAtUrl _) _)) fun r _ => ?_
  obtain url | e | url := r
  · exact .throw _ trivial
  · exact .throw _ trivial
  · exact keeps_passed _

end Walkthrough.Script
