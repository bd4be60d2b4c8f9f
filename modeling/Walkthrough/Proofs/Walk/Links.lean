import Walkthrough.Proofs.Browser.Handles
import Walkthrough.Proofs.Command.Routing
import Walkthrough.Proofs.Walk.Exchange
import Walkthrough.Proofs.Walk.LastVisit
import Walkthrough.Proofs.Walk.Observers

namespace Walkthrough

namespace Browser

def references (b : Browser) (selector : String) : List String :=
  match b.page.find (.css selector none) with
  | .ok found => found.filterMap (b.page.attribute? · "href")
  | .error _ => []

/-- A reference relative to the URL of the page, or by itself where that is none. -/
def resolve (b : Browser) (reference : String) : Except UrlError Url :=
  match Url.parse b.url with
  | .ok base => base.join reference
  | .error _ => Url.parse reference

/-- The web addresses that the elements refer to which a selector finds, in document order. -/
def targets (b : Browser) (selector : String) : List Url :=
  ((b.references selector).filter Script.isFollowed).filterMap fun reference =>
    (b.resolve reference).toOption.filter Url.isWeb

theorem isWeb_of_mem_targets {b : Browser} {selector : String} {u : Url}
    (h : u ∈ b.targets selector) : u.isWeb := by
  obtain ⟨reference, -, hu⟩ := List.mem_filterMap.mp h
  exact (Option.mem_filter_iff.mp hu).2

theorem webAddress?_eq (b : Browser) (reference : String) :
    Script.webAddress? (Url.parse b.url).toOption reference =
      ((b.resolve reference).toOption.filter Url.isWeb).map Url.toText := by
  unfold Script.webAddress? resolve
  cases Url.parse b.url <;> rfl

end Browser

/-- A stage after calls that load no page: they are counted, and what they did is in the journal. -/
def Stage.noted (s : Stage Rig) (turns : List (Call.Kind × Nat)) (entered : List Interaction) :
    Stage Rig :=
  { s with host := { s.host with
      browser := { s.host.browser with journal := s.host.browser.journal ++ entered }
      turns := turns } }

namespace Stage

variable (s : Stage Rig) (turns later : List (Call.Kind × Nat)) (entered more : List Interaction)

@[simp] theorem noted_noted :
    (s.noted turns entered).noted later more = s.noted later (entered ++ more) := by
  simp [noted, List.append_assoc]

@[simp] theorem browser_noted_nil : (s.noted turns []).host.browser = s.host.browser := by
  simp [noted]

@[simp] theorem noted_self : s.noted s.host.turns [] = s := by
  simp [noted]

end Stage

theorem Rig.respond_cases {r : Rig} (hfair : r.disturbance.IsFair) (c : Call) :
    (∃ e, Host.respond c r = (.error e, r.advance c.kind)) ∨
      Host.respond c r = ((r.browser.respond c).1,
        { r.advance c.kind with browser := (r.browser.respond c).2 }) := by
  change (∃ e, r.respond c = _) ∨ r.respond c = _
  unfold respond
  split
  · exact .inl ⟨_, rfl⟩
  · refine .inr (Prod.ext ?_ rfl)
    dsimp only
    cases (r.browser.respond c).1 with
    | error e => rfl
    | ok a => exact congrArg Except.ok (Disturbance.alter_of_isFair hfair c a)

/-- What only looks sees on a rig what there is to see in the browser, unless a look fails. -/
theorem Procedure.performs_of_looks {p : Procedure α} (hp : p.Within Call.Looks False)
    {d : Option Nat} {s : Stage Rig} (hfair : s.host.disturbance.IsFair)
    (hseen : Exchange.Seen (p.exchanges d s)) {a : α} {after : Stage Browser}
    (hrun : p.run d { s with host := s.host.browser } = (some a, after)) :
    ∃ made turns, (∀ x ∈ made, x.call.Looks) ∧ p.Performs d s made a (s.noted turns []) := by
  induction p generalizing s with
  | done b =>
    obtain rfl : b = a := Option.some.inj (congrArg Prod.fst hrun)
    refine ⟨[], s.host.turns, nofun, ?_⟩
    rw [s.noted_self]
    exact performs_done b d s
  | call c next ih =>
    obtain ⟨hlooks, hnext⟩ := hp
    obtain ⟨hhead, hrest⟩ := List.forall_mem_cons.mp hseen
    obtain ⟨e, he⟩ | hanswer := Rig.respond_cases hfair c
    · -- a look that is made to fail is not seen
      have hok : (Host.respond c s.host).1.isOk := hhead hlooks
      rw [he] at hok
      contradiction
    · have hstage : { s with host := (Host.respond c s.host).2 } =
          s.noted (Host.respond c s.host).2.turns [] := by
        rw [hanswer, Browser.respond_of_looks hlooks]
        simp [Stage.noted, Rig.advance]
      have hsame : (Host.respond c s.host).1 = (s.host.browser.respond c).1 :=
        congrArg Prod.fst hanswer
      have hlast : (next (Host.respond c s.host).1).run d { s with host := s.host.browser } =
          (some a, after) := by
        rw [← hrun, run_call, hsame]
        exact congrArg (fun host => (next _).run d { s with host := host })
          (Browser.respond_of_looks hlooks _).symm
      have hseen : Exchange.Seen ((next (Host.respond c s.host).1).exchanges d
          { s with host := (Host.respond c s.host).2 }) := hrest
      rw [hstage] at hseen
      obtain ⟨made, turns, hmade, hperforms⟩ := ih _ (hnext _) (s := s.noted _ []) hfair hseen
        (by simpa [Stage.noted] using hlast)
      rw [Stage.noted_noted, ← hstage] at hperforms
      exact ⟨_, turns, List.forall_mem_cons.mpr ⟨hlooks, hmade⟩, performs_call hperforms⟩
  | pause ms next ih => exact hp.1.elim
  | record v next ih => exact hp.elim

namespace Script

open Procedure (Performs)

theorem run_attributes {s : Stage Browser} {found : List Handle}
    (hlive : ∀ h ∈ found, s.host.isLive h) (name : String) (v : View) (d : Option Nat) :
    Procedure.run d ((found.mapM fun h => call (.attributeOf h name)) v) s =
      (some (.ok (found.map fun h => s.host.page.attribute? h.id name)), s) := by
  induction found with
  | nil => rfl
  | cons h rest ih =>
    obtain ⟨hhead, hrest⟩ := List.forall_mem_cons.mp hlive
    have hanswer : Host.respond (.attributeOf h name) s.host =
        (.ok (s.host.page.attribute? h.id name), s.host) :=
      Browser.withElement_of_isLive hhead _
    rw [List.mapM_cons, run_bind_of_ok (run_call_of_ok hanswer v d), run_bind_of_ok (ih hrest)]
    rfl

theorem run_linksOf {s : Stage Browser} {selector : String} {found : List Nat}
    (hfind : s.host.page.find (.css selector none) = .ok found) (v : View) (d : Option Nat) :
    Procedure.run d (linksOf selector v) s =
      (some (.ok ((s.host.targets selector).map Url.toText)), s) := by
  have hurl : Host.respond .currentUrl s.host = (.ok s.host.url, s.host) := rfl
  have hquery : Host.respond (.query (.css selector none)) s.host =
      (.ok (s.host.handles found), s.host) :=
    Browser.respond_query_of_find hfind
  have hlive : ∀ h ∈ s.host.handles found, s.host.isLive h :=
    fun h hh => Browser.isLive_of_found hfind hh
  have hreferences : ((s.host.handles found).map
      fun h => s.host.page.attribute? h.id "href").filterMap id = s.host.references selector := by
    unfold Browser.handles Browser.references
    rw [hfind, List.map_map, List.filterMap_map]
    rfl
  have haddress : webAddress? (Url.parse s.host.url).toOption = fun reference =>
      ((s.host.resolve reference).toOption.filter Url.isWeb).map Url.toText :=
    funext s.host.webAddress?_eq
  unfold linksOf
  rw [run_bind_of_ok (run_call_of_ok hurl v d), run_bind_of_ok (run_call_of_ok hquery v d),
    run_bind_of_ok (run_attributes hlive "href" v d), hreferences, haddress]
  unfold Browser.targets
  rw [List.map_filterMap]
  rfl

/-- The links are collected from a rig as from its browser, unless a look fails. -/
theorem performs_linksOf {s : Stage Rig} (hfair : s.host.disturbance.IsFair) {selector : String}
    {found : List Nat} (hfind : s.host.browser.page.find (.css selector none) = .ok found)
    {v : View} {d : Option Nat} (hseen : Exchange.Seen ((linksOf selector v).exchanges d s)) :
    ∃ made turns, (∀ x ∈ made, x.call.Looks) ∧
      Performs d (linksOf selector v) s made
        (.ok ((s.host.browser.targets selector).map Url.toText)) (s.noted turns []) := by
  have hlooks : Procedure.Within Call.Looks False (linksOf selector v) :=
    (keeps_linksOf (t := .looking) selector).within id v
  have hrun := run_linksOf (s := { s with host := s.host.browser }) hfind v d
  exact Procedure.performs_of_looks hlooks hfair hseen hrun

end Script

theorem Page.find_of_selector (p : Page) {selector : String} (h : (Selector.parse selector).isOk) :
    ∃ found, p.find (.css selector none) = .ok found := by
  unfold find
  dsimp only
  cases hparse : Selector.parse selector with
  | error f =>
    rw [hparse] at h
    contradiction
  | ok selector => exact ⟨_, rfl⟩

/-- A link that is requested, and what came of it. -/
structure LinkCheck where
  address : String
  answer : Except SessionError Nat

namespace LinkCheck

def exchange (k : LinkCheck) : Exchange :=
  ⟨.request .get k.address none, k.answer⟩

def journalled? (k : LinkCheck) : Option Interaction :=
  if k.answer.isOk then some (.request .get (Url.normalize k.address)) else none

def passes (k : LinkCheck) : Bool :=
  k.answer.toOption.any (· < 400)

def complaint (k : LinkCheck) : String :=
  match k.answer with
  | .ok status => toString status ++ " " ++ k.address
  | .error e => k.address ++ " (" ++ e.message ++ ")"

/-- The status, where there is one, is the one that the site has for the address. -/
def IsFrom (site : Site) (k : LinkCheck) : Prop :=
  ∀ status, k.answer = .ok status → status = site.requestStatus (Url.normalize k.address)

end LinkCheck

namespace Script

open Procedure (Performs)

theorem performs_request {s : Stage Rig} (hfair : s.host.disturbance.IsFair) (address : String)
    (v : View) (d : Option Nat) :
    ∃ k turns, LinkCheck.address k = address ∧ k.IsFrom s.host.browser.site ∧
      Performs d (ask (.request .get address none) v) s [k.exchange] (.ok k.answer)
        (s.noted turns k.journalled?.toList) := by
  have hask := performs_ask (.request .get address none) v d s
  obtain ⟨e, he⟩ | hanswer := Rig.respond_cases hfair (.request .get address none)
  · rw [he] at hask
    refine ⟨⟨address, .error e⟩, (s.host.advance .request).turns, rfl, nofun, ?_⟩
    have hstage : s.noted (s.host.advance .request).turns
        (LinkCheck.journalled? ⟨address, .error e⟩).toList =
          { s with host := s.host.advance .request } := by
      simp [Stage.noted, Rig.advance, LinkCheck.journalled?, Except.isOk, Except.toBool]
    rw [hstage]
    exact hask
  · rw [hanswer] at hask
    refine ⟨⟨address, .ok (s.host.browser.site.requestStatus (Url.normalize address))⟩,
      (s.host.advance .request).turns, rfl, fun status h => (Except.ok.inj h).symm, hask⟩

/-- All links are requested in turn, and those that are not fine are reported in this order. -/
theorem performs_brokenLinks {s : Stage Rig} (hfair : s.host.disturbance.IsFair)
    (links : List String) (v : View) (d : Option Nat) :
    ∃ (checks : List LinkCheck) (turns : List (Call.Kind × Nat)), checks.map (·.address) = links ∧
      (∀ k ∈ checks, k.IsFrom s.host.browser.site) ∧
      Performs d (brokenLinks links v) s (checks.map (·.exchange))
        (.ok ((checks.filter (!·.passes)).map (·.complaint)))
        (s.noted turns (checks.filterMap (·.journalled?))) := by
  induction links generalizing s with
  | nil =>
    refine ⟨[], s.host.turns, rfl, nofun, ?_⟩
    rw [List.filterMap_nil, s.noted_self]
    exact Procedure.performs_done _ d s
  | cons address rest ih =>
    obtain ⟨⟨address, answer⟩, turns, rfl, hfrom, hfirst⟩ := performs_request hfair address v d
    obtain ⟨checks, later, rfl, hall, hothers⟩ :=
      ih (s := s.noted turns (LinkCheck.journalled? ⟨address, answer⟩).toList) hfair
    rw [Stage.noted_noted] at hothers
    refine ⟨⟨address, answer⟩ :: checks, later, rfl, List.forall_mem_cons.mpr ⟨hfrom, hall⟩, ?_⟩
    have hentries : (⟨address, answer⟩ :: checks).filterMap (·.journalled?) =
        (LinkCheck.journalled? ⟨address, answer⟩).toList ++ checks.filterMap (·.journalled?) := by
      rw [List.filterMap_cons]
      cases LinkCheck.journalled? ⟨address, answer⟩ <;> rfl
    have hlast (g : List String → List String) := performs_bind hothers
      (f := fun others => pure (g others)) (Procedure.performs_done _ d _)
    rw [List.append_nil] at hlast
    rw [hentries]
    refine performs_bind hfirst ?_
    -- whatever the answer is, the others are requested next; it only decides what is reported
    cases answer with
    | ok status =>
      have hresult : (if status < 400 then (checks.filter (!·.passes)).map (·.complaint)
          else (toString status ++ " " ++ address) ::
            (checks.filter (!·.passes)).map (·.complaint)) =
          ((⟨address, .ok status⟩ :: checks).filter (!·.passes)).map (·.complaint) := by
        by_cases hstatus : status < 400 <;>
          simp [hstatus, LinkCheck.passes, LinkCheck.complaint, Except.toOption]
      rw [← hresult]
      exact hlast fun others =>
        if status < 400 then others else (toString status ++ " " ++ address) :: others
    | error e => exact hlast fun others => (address ++ " (" ++ e.message ++ ")") :: others

theorem performs_checkBrokenLinks {s : Stage Rig} (hfair : s.host.disturbance.IsFair) {v : View}
    {d : Option Nat} (hseen : Exchange.Seen (checkBrokenLinks v |>.exchanges d s)) :
    ∃ (lookups : List Exchange) (checks : List LinkCheck) (turns : List (Call.Kind × Nat)),
      (∀ x ∈ lookups, x.call.Looks) ∧
      checks.map (·.address) = ((s.host.browser.targets "a[href]").map Url.toText).take 50 ∧
      (∀ k ∈ checks, k.IsFrom s.host.browser.site) ∧
      Performs d (checkBrokenLinks v) s (lookups ++ checks.map (·.exchange))
        (.ok (if ∀ k ∈ checks, k.passes then .passed (toString checks.length ++ " links ok")
          else .warned (toString (checks.filter (!·.passes)).length ++ " of " ++
            toString checks.length ++ " links broken: " ++
            ", ".intercalate ((checks.filter (!·.passes)).map (·.complaint)))))
        (s.noted turns (checks.filterMap (·.journalled?))) := by
  obtain ⟨found, hfind⟩ := s.host.browser.page.find_of_selector
    (by decide +kernel : (Selector.parse "a[href]").isOk)
  unfold checkBrokenLinks at hseen ⊢
  obtain ⟨lookups, turns, hlooks, hfirst⟩ := performs_linksOf hfair hfind (seen_left hseen)
  obtain ⟨checks, later, haddresses, hfrom, hsecond⟩ := performs_brokenLinks
    (s := s.noted turns []) hfair (((s.host.browser.targets "a[href]").map Url.toText).take 50) v d
  rw [s.browser_noted_nil] at hfrom
  rw [Stage.noted_noted] at hsecond
  refine ⟨lookups, checks, later, hlooks, haddresses, hfrom, performs_bind hfirst ?_⟩
  rw [← List.append_nil (checks.map _)]
  refine performs_bind hsecond ?_
  rw [← haddresses, List.length_map]
  by_cases hall : ∀ k ∈ checks, k.passes
  · have hnone : checks.filter (!·.passes) = [] := by simpa using hall
    rw [if_pos hall, hnone]
    exact Procedure.performs_done _ d _
  · have hsome : ((checks.filter (!·.passes)).map (·.complaint)).isEmpty = false := by
      simpa using hall
    rw [if_neg hall, if_neg (by simp [hsome]), List.length_map]
    exact Procedure.performs_done _ d _

end Script

namespace Course

/-- The check for broken links asks for the addresses that the page links to, the first fifty of them,
one after the other and each as often as it is linked to. It passes if all of them answer with a status
below 400, and otherwise reports those that do not, in this order. Nothing is changed but that the
requests are in the journal. -/
theorem broken_links_reported {c : Course} {step : Step} {command : Command} {args : Arguments}
    (hfind : c.catalogue.find? step.text = some (command, args))
    (heffect : command.effect = .act .checkBrokenLinks) {s : Stage Rig}
    (hfair : s.host.disturbance.IsFair) (d : Option Nat)
    (hseen : Exchange.Seen ((c.procedure s command args).exchanges d s)) :
    let before := s.host.browser
    let after := (c.runStep d step s).2
    ∃ (lookups : List Exchange) (checks : List LinkCheck),
      (c.procedure s command args).exchanges d s = lookups ++ checks.map (·.exchange) ∧
      (∀ x ∈ lookups, x.call.Looks) ∧
      checks.map (·.address) = ((before.targets "a[href]").map Url.toText).take 50 ∧
      (∀ k ∈ checks, k.IsFrom before.site) ∧
      (let broken := checks.filter (!·.passes)
       (c.runStep d step s).1 = some (
        if ∀ k ∈ checks, k.passes then
          ⟨step.number, step.text, some command.name, .passed,
            toString checks.length ++ " links ok", 0⟩
        else
          ⟨step.number, step.text, some command.name, .warned,
            toString broken.length ++ " of " ++ toString checks.length ++ " links broken: " ++
              ", ".intercalate (broken.map (·.complaint)), 0⟩)) ∧
      after.host.browser =
        { before with journal := before.journal ++ checks.filterMap (·.journalled?) } ∧
      after.last = s.last ∧ (c.view after).capture = (c.view s).capture := by
  intro before after
  have hprocedure : c.procedure s command args = Script.checkBrokenLinks (c.view s) :=
    procedure_of_act heffect args
  rw [hprocedure] at hseen ⊢
  obtain ⟨lookups, checks, turns, hlooks, haddresses, hfrom, hperforms⟩ :=
    Script.performs_checkBrokenLinks hfair hseen
  have hstep : c.runStep d step s = _ := runStep_of_some hfind d s
  rw [hprocedure, hperforms.run] at hstep
  refine ⟨lookups, checks, hperforms.exchanges, hlooks, haddresses, hfrom, ?_, ?_, ?_, ?_⟩
  · rw [hstep]
    dsimp only
    split <;> simp [outcome, Outcome.passed, Outcome.warned, Stage.noted]
  · show (c.runStep d step s).2.host.browser = _
    rw [hstep]
    rfl
  · show (c.runStep d step s).2.last = _
    rw [hstep]
    rfl
  · show (c.view (c.runStep d step s).2).capture = _
    rw [hstep]
    rfl

/-- A shop links to a page twice, to one that is gone and to a shop that does not answer. -/
theorem broken_links_reported_shop :
    let link (reference : String) : Element := ⟨"a", [("href", reference)], "", none, false⟩
    let site := (Site.empty.addRoute "https://shop.test/" 200 ⟨[link "/a", link "mailto:a@b.c",
      link "/gone", link "https://other.test", link " ", link "/a"], [], [], ⟨0, 0⟩⟩).addStatus
        "https://shop.test/a" 200
    let down : Fault := ⟨.request, ⟨.http, none⟩, some [2]⟩
    let c : Course := ⟨Catalogue.standard, Settings.standard, CaptureLimits.standard, 0⟩
    let shown : Browser := (Browser.start site).visit "https://shop.test/"
    let s : Stage Rig := ⟨⟨shown, { Disturbance.none with faults := [down] }, []⟩, 0, none⟩
    let step : Step := ⟨1, "check broken-links", 1⟩
    let after := (c.runStep none step s).2
    s.host.disturbance.IsFair ∧
      ∃ command args, c.catalogue.find? step.text = some (command, args) ∧
        command.effect = .act .checkBrokenLinks ∧
        Exchange.Seen ((c.procedure s command args).exchanges none s) ∧
        (∃ (lookups : List Exchange) (checks : List LinkCheck),
          (c.procedure s command args).exchanges none s = lookups ++ checks.map (·.exchange) ∧
          checks.map (·.address) = ["https://shop.test/a", "https://shop.test/gone",
            "https://other.test/", "https://shop.test/a"]) ∧
        (c.runStep none step s).1 = some ⟨1, "check broken-links", some "check broken-links",
          .warned, "2 of 4 links broken: 404 https://shop.test/gone, " ++
            "https://other.test/ (http request failed)", 0⟩ ∧
        after.host.browser.url = s.host.browser.url ∧ after.last = s.last := by
  intro link site down c shown s step after
  have hfair : s.host.disturbance.IsFair := ⟨rfl, rfl, rfl⟩
  have hline : ∃ command args, c.catalogue.find? step.text = some (command, args) ∧
      command.name = "check broken-links" ∧ command.effect = .act .checkBrokenLinks :=
    Catalogue.exists_find?_of_row "^check broken-links$" (by simp [Catalogue.standardRows])
      (by decide +kernel) (by decide) (by decide)
  have hlooks : Exchange.Seen (Procedure.exchanges none (Script.checkBrokenLinks (c.view s)) s) := by
    decide +kernel
  have hlinks : ((s.host.browser.targets "a[href]").map Url.toText).take 50 =
      ["https://shop.test/a", "https://shop.test/gone", "https://other.test/",
        "https://shop.test/a"] := by
    decide +kernel
  have hrecord : (c.runStep none step s).1 = some ⟨1, "check broken-links",
      some "check broken-links", .warned, "2 of 4 links broken: 404 https://shop.test/gone, " ++
        "https://other.test/ (http request failed)", 0⟩ := by
    decide +kernel
  clear_value s c
  obtain ⟨command, args, hfind, -, heffect⟩ := hline
  have hseen : Exchange.Seen ((c.procedure s command args).exchanges none s) := by
    rw [procedure_of_act heffect]
    exact hlooks
  obtain ⟨lookups, checks, hmade, -, haddresses, -, -, hbrowser, hlast, -⟩ :=
    broken_links_reported hfind heffect hfair none hseen
  refine ⟨hfair, command, args, hfind, heffect, hseen, ⟨lookups, checks, hmade, ?_⟩, hrecord, ?_,
    hlast⟩
  · exact haddresses.trans hlinks
  · show (c.runStep none step s).2.host.browser.url = _
    rw [hbrowser]

end Course

end Walkthrough
