import Walkthrough.Proofs.Browser.Replay
import Walkthrough.Proofs.Command.StatusLine
import Walkthrough.Proofs.Walk.LastVisit

namespace Walkthrough

theorem Script.checkStatus_of_last {args : Arguments} {n status : Nat} {v : View}
    (hn : args.nat? Text.maxU16 1 = some n) (hlast : v.last.bind (·.status) = some status) :
    checkStatus args v = Procedure.done (if n = status then .ok (.passed ("status " ++ toString status))
      else .error (.statusMismatch n status)) := by
  have hcurrent (next : Nat → Script Outcome) : (currentStatus >>= next) v = next status v := by
    unfold currentStatus
    rw [bind_assoc]
    have hread (f : View → Script Outcome) : (read >>= f) v = f v v := rfl
    rw [hread, hlast]
    rfl
  unfold checkStatus
  rw [hn]
  dsimp only
  rw [hcurrent]
  by_cases h : n = status
  · have hsame : (status != n) = false := by simp [h]
    rw [hsame, if_pos h]
    rfl
  · have hother : (status != n) = true := by simpa using Ne.symm h
    rw [hother, if_neg h]
    rfl

def Event.documentStatus? : Event → Option Nat
  | response r => if r.kind = .document then some r.status else none
  | console _ => none

/-- Unless a page loads documents of its own, its own response is the last for a document. -/
theorem Browser.getLast?_documentStatus (before : List Event) (url : String) {r : Route}
    (h : ∀ resource ∈ r.page.resources, resource.kind ≠ .document) :
    ((before ++ reports url r).filterMap Event.documentStatus?).getLast? = some r.status := by
  have hresources : (r.page.resources.map Event.response).filterMap Event.documentStatus? = [] := by
    rw [List.filterMap_map, List.filterMap_eq_nil_iff]
    exact fun resource hr => if_neg (h resource hr)
  have hconsole : (r.page.console.map Event.console).filterMap Event.documentStatus? = [] := by
    rw [List.filterMap_map, List.filterMap_eq_nil_iff]
    exact fun _ _ => rfl
  have hreports : (reports url r).filterMap Event.documentStatus? = [r.status] := by
    show r.status :: (r.page.resources.map Event.response ++
      r.page.console.map Event.console).filterMap Event.documentStatus? = [r.status]
    rw [List.filterMap_append, hresources, hconsole, List.nil_append]
  rw [List.filterMap_append, hreports, List.getLast?_concat]

namespace Course

variable {c : Course}

theorem runStep_statusLine [Host σ] (hc : c.catalogue = Catalogue.standard) {s : Stage σ}
    {status n : Nat} (hlast : s.last.bind (·.status) = some status) (hn : n < 1000)
    (d : Option Nat) (number origin : Nat) :
    c.runStep d ⟨number, Catalogue.statusLine n, origin⟩ s =
      (some ⟨number, Catalogue.statusLine n, some "check status",
        if n = status then .passed else .failed,
        if n = status then "status " ++ toString status
          else (StepError.statusMismatch n status).toOutcome.message, 0⟩, s) := by
  obtain ⟨command, args, hfind, hname, heffect, hargs⟩ := Catalogue.find?_statusLine hn
  have hnumber : args.nat? Text.maxU16 1 = some n := by
    unfold Arguments.nat?
    rw [hargs]
    exact Text.nat?_threeDigits hn
  have hprocedure : c.procedure s command args = Procedure.done
      (if n = status then .ok (.passed ("status " ++ toString status))
        else .error (.statusMismatch n status)) := by
    unfold procedure
    rw [heffect]
    exact Script.checkStatus_of_last hnumber hlast
  rw [← hc] at hfind
  have hstep : c.catalogue.find? (Step.text ⟨number, Catalogue.statusLine n, origin⟩) =
      some (command, args) := hfind
  rw [runStep_of_some hstep, hprocedure, hname]
  by_cases h : n = status
  · simp [h, Procedure.run, outcome, Outcome.passed]
  · simp [h, Procedure.run, outcome, StepError.toOutcome]

/-- Wherever steps and runs lead, the browser is what becomes of the first one when all that has been
entered in the journal since is done again. -/
theorem Reach.host_eq_redone {start s : Stage Browser} (hreach : c.Reach start s)
    {made : List Interaction} (hjournal : s.host.journal = start.host.journal ++ made) :
    s.host = start.host.redone made := by
  have hrespond (call : Call) (b : Browser) (h : ∃ made, b = start.host.redone made) :
      ∃ made, (Host.respond call b).2 = start.host.redone made := by
    obtain ⟨made, rfl⟩ := h
    obtain ⟨more, hmore⟩ := (start.host.redone made).redone_respond call
    exact ⟨made ++ more, hmore.trans (start.host.redone_append made more).symm⟩
  have hI := Stage.invariant_of_respond (σ := Browser) hrespond
  obtain ⟨all, hall⟩ := hreach.invariant hI ⟨[], rfl⟩
  rw [hall, Browser.journal_redone] at hjournal
  rw [hall, List.append_cancel_left hjournal]

/-- Wherever steps and runs lead that start with nothing taken down, the check of a status passes
exactly for the status that the site has for the URL of the last navigation that was taken down.
Doing again what the journal tells leads to the same browser; where no document is loaded after that
navigation, be it by a click or by a step back, its page is the one that is shown, and its document
is the last that was loaded and reported. -/
theorem check_status_judges_last_visit (hc : c.catalogue = Catalogue.standard)
    {start s : Stage Browser} (hstart : start.last = none) (hreach : c.Reach start s)
    {earlier more : List Interaction} {url : String}
    (hjournal : s.host.journal = start.host.journal ++ (earlier ++ .navigate url :: more))
    (hmore : ∀ i ∈ more, i.visited? = none) {n : Nat} (hn : n < 1000) (d : Option Nat)
    (number sourceLine : Nat) :
    let visited := start.host.site.route url
    c.runStep d ⟨number, Catalogue.statusLine n, sourceLine⟩ s =
        (some ⟨number, Catalogue.statusLine n, some "check status",
          if n = visited.status then .passed else .failed,
          if n = visited.status then "status " ++ toString visited.status
            else (StepError.statusMismatch n visited.status).toOutcome.message, 0⟩, s) ∧
      s.host = start.host.redone (earlier ++ .navigate url :: more) ∧
      ((start.host.redone (earlier ++ [.navigate url])).documents more = [] →
        s.host.url = url ∧ (∃ before, s.host.events = before ++ Browser.reports url visited) ∧
          ((∀ r ∈ visited.page.resources, r.kind ≠ .document) →
            (s.host.events.filterMap Event.documentStatus?).getLast? = some visited.status)) := by
  intro visited
  have hredone := hreach.host_eq_redone hjournal
  refine ⟨?_, hredone, fun hnone => ?_⟩
  · obtain ⟨made, hmade, hlast⟩ := (hreach.mirrors Browser.front trivial hstart).last
    obtain rfl := List.append_cancel_left (hjournal.symm.trans hmade)
    rw [Site.lastVisit?_of_split _ hmore] at hlast
    exact runStep_statusLine hc (congrArg (·.bind (·.status)) hlast) hn d number sourceLine
  · obtain ⟨hurl, before, hevents⟩ := Browser.redone_navigate start.host earlier hnone
    rw [← hredone] at hurl hevents
    refine ⟨hurl, ⟨before, hevents⟩, fun hresources => ?_⟩
    rw [hevents]
    exact Browser.getLast?_documentStatus before url hresources

def linkedShop : Site :=
  Site.empty.addRoute "https://shop.test/" 200
    ⟨[⟨"a", [("href", "/gone")], "Gone", none, false⟩, ⟨"button", [], "Buy", none, false⟩],
      [], [], ⟨0, 0⟩⟩

/-- The shop is opened and its button is clicked, which loads nothing: the status of the shop is
what the check passes for, and the last that was reported for a document. -/
theorem check_status_judges_last_visit_opened :
    let c : Course := ⟨Catalogue.standard, Settings.standard, CaptureLimits.standard, 0⟩
    let start : Stage Browser := ⟨Browser.start linkedShop, 0, none⟩
    let s := (c.run [⟨1, "open https://shop.test/", 1⟩, ⟨2, "click \"Buy\"", 2⟩] start).2
    start.last = none ∧ c.Reach start s ∧
      s.host.journal = start.host.journal ++ ([] ++ .navigate "https://shop.test/" :: [.click 1]) ∧
      (∀ i ∈ [Interaction.click 1], i.visited? = none) ∧ 200 < 1000 ∧
      (start.host.redone [.navigate "https://shop.test/"]).documents [.click 1] = [] ∧
      (c.runStep none ⟨3, "check status 200", 3⟩ s).1.map (·.status) = some .passed ∧
      s.host.url = "https://shop.test/" ∧
      (s.host.events.filterMap Event.documentStatus?).getLast? = some 200 := by
  intro c start s
  have hreach : c.Reach start s := .run .refl _
  have hjournal : s.host.journal =
      start.host.journal ++ ([] ++ .navigate "https://shop.test/" :: [.click 1]) := by
    decide +kernel
  have hnone : (start.host.redone [.navigate "https://shop.test/"]).documents [.click 1] = [] := by
    decide +kernel
  obtain ⟨hroute, hresources⟩ : (linkedShop.route "https://shop.test/").status = 200 ∧
      (linkedShop.route "https://shop.test/").page.resources = [] := by
    decide +kernel
  have hmore : ∀ i ∈ [Interaction.click 1], i.visited? = none := List.forall_mem_singleton.mpr rfl
  clear_value s
  obtain ⟨hrun, -, hshown⟩ := check_status_judges_last_visit (c := c) rfl rfl hreach hjournal hmore
    (show 200 < 1000 by decide) none 3 3
  obtain ⟨hurl, -, hstatus⟩ := hshown hnone
  have hline : Catalogue.statusLine 200 = "check status 200" := by decide +kernel
  have hpassed : 200 = (start.host.site.route "https://shop.test/").status := hroute.symm
  have hplain : (start.host.site.route "https://shop.test/").page.resources = [] := hresources
  rw [hplain, ← hpassed] at hstatus
  rw [hline, ← hpassed] at hrun
  refine ⟨rfl, hreach, hjournal, hmore, by decide, hnone, ?_, hurl, hstatus nofun⟩
  rw [hrun]
  rfl

def framedShop : Site :=
  Site.empty.addRoute "https://shop.test/" 200
    ⟨[], [], [⟨"https://shop.test/frame", 500, .document⟩], ⟨0, 0⟩⟩

/-- Where a link has been followed to a page that is not there, the check does not pass for the
status of that page, although it was the last document to be reported; nor does it for the status
of a document that belongs to the page. -/
theorem check_status_not_of_followed_link :
    let c : Course := ⟨Catalogue.standard, Settings.standard, CaptureLimits.standard, 0⟩
    let start (site : Site) : Stage Browser := ⟨Browser.start site, 0, none⟩
    let s := (c.run [⟨1, "open https://shop.test/", 1⟩, ⟨2, "click \"Gone\"", 2⟩]
      (start linkedShop)).2
    let framed := (c.run [⟨1, "open https://shop.test/", 1⟩] (start framedShop)).2
    (c.Reach (start linkedShop) s ∧ s.last.isSome ∧
      ¬ ((c.runStep none ⟨3, "check status 404", 3⟩ s).1.map (·.status) = some .passed ↔
        (s.host.events.filterMap Event.documentStatus?).getLast? = some 404)) ∧
    c.Reach (start framedShop) framed ∧ framed.last.isSome ∧
      ¬ ((c.runStep none ⟨2, "check status 500", 2⟩ framed).1.map (·.status) = some .passed ↔
        (framed.host.events.filterMap Event.documentStatus?).getLast? = some 500) := by
  intro c start s framed
  obtain ⟨hlast, hdocument, hstatus⟩ : s.last.isSome ∧
      (s.host.events.filterMap Event.documentStatus?).getLast? = some 404 ∧
      (c.runStep none ⟨3, "check status 404", 3⟩ s).1.map (·.status) = some .failed := by
    decide +kernel
  obtain ⟨hframed, hinner, hjudged⟩ : framed.last.isSome ∧
      (framed.host.events.filterMap Event.documentStatus?).getLast? = some 500 ∧
      (c.runStep none ⟨2, "check status 500", 2⟩ framed).1.map (·.status) = some .failed := by
    decide +kernel
  refine ⟨⟨.run .refl _, hlast, fun h => ?_⟩, .run .refl _, hframed, fun h => ?_⟩
  · rw [hstatus] at h
    exact absurd (h.mpr hdocument) (by decide)
  · rw [hjudged] at h
    exact absurd (h.mpr hinner) (by decide)

end Course

end Walkthrough
