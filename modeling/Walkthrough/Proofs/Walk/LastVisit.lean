import Mathlib.Data.List.Induction
import Walkthrough.Browser.Rig
import Walkthrough.Command.Standard
import Walkthrough.Proofs.Browser.Turns
import Walkthrough.Proofs.Walk.Invariant

namespace Walkthrough

def Interaction.visited? : Interaction → Option String
  | navigate url => some url
  | _ => none

theorem Interaction.visited?_of_not_moves {i : Interaction} (h : i.moves = false) :
    i.visited? = none := by
  cases i with
  | navigate url => contradiction
  | _ => rfl

/-- The last navigation of a journal, with the status that the site has for its URL. -/
def Site.lastVisit? (site : Site) (journal : List Interaction) : Option Visit :=
  (journal.filterMap (·.visited?)).getLast?.map fun url => ⟨url, some (site.route url).status⟩

namespace Site

variable (site : Site) {journal more : List Interaction}

theorem lastVisit?_append (h : ∀ i ∈ more, i.visited? = none) :
    site.lastVisit? (journal ++ more) = site.lastVisit? journal := by
  have hmore : more.filterMap (·.visited?) = [] := List.filterMap_eq_nil_iff.mpr h
  unfold lastVisit?
  rw [List.filterMap_append, hmore, List.append_nil]

theorem lastVisit?_concat (url : String) :
    site.lastVisit? (journal ++ [.navigate url]) = some ⟨url, some (site.route url).status⟩ := by
  have hlast : [Interaction.navigate url].filterMap (·.visited?) = [url] := rfl
  unfold lastVisit?
  rw [List.filterMap_append, hlast, List.getLast?_concat, Option.map_some]

theorem lastVisit?_of_split {earlier : List Interaction} {url : String}
    (h : ∀ i ∈ more, i.visited? = none) :
    site.lastVisit? (earlier ++ .navigate url :: more) =
      some ⟨url, some (site.route url).status⟩ := by
  rw [List.append_cons, site.lastVisit?_append h, lastVisit?_concat]

theorem lastVisit?_eq_none_iff :
    site.lastVisit? journal = none ↔ ∀ i ∈ journal, i.visited? = none := by
  unfold lastVisit?
  rw [Option.map_eq_none_iff, List.getLast?_eq_none_iff, List.filterMap_eq_nil_iff]

theorem of_lastVisit?_eq_some {v : Visit} (h : site.lastVisit? journal = some v) :
    v.status = some (site.route v.url).status ∧
      ∃ earlier more, journal = earlier ++ .navigate v.url :: more ∧
        ∀ i ∈ more, i.visited? = none := by
  induction journal using List.reverseRecOn with
  | nil => contradiction
  | append_singleton journal i ih =>
    cases hi : i.visited? with
    | none =>
      rw [site.lastVisit?_append (List.forall_mem_singleton.mpr hi)] at h
      obtain ⟨hstatus, earlier, more, hsplit, hmore⟩ := ih h
      refine ⟨hstatus, earlier, more ++ [i], ?_, ?_⟩
      · rw [hsplit, List.append_assoc, List.cons_append]
      · exact List.forall_mem_append.mpr ⟨hmore, List.forall_mem_singleton.mpr hi⟩
    | some url =>
      cases i with
      | navigate key =>
        rw [site.lastVisit?_concat] at h
        obtain rfl := Option.some.inj h
        exact ⟨rfl, journal, [], rfl, nofun⟩
      | _ => contradiction

end Site

/-- Whatever was done between two states of a browser, it did not navigate. -/
structure Browser.Stays (b b' : Browser) : Prop where
  site : b'.site = b.site
  journal : ∃ more, b'.journal = b.journal ++ more ∧ ∀ i ∈ more, i.visited? = none

namespace Browser

theorem Stays.refl (b : Browser) : b.Stays b :=
  ⟨rfl, [], (List.append_nil _).symm, nofun⟩

theorem stays_enter (b : Browser) {i : Interaction} (h : i.visited? = none) : b.Stays (b.enter i) :=
  ⟨rfl, [i], rfl, List.forall_mem_singleton.mpr h⟩

/-- Nothing but to navigate enters a navigation, be it a link that leads elsewhere. -/
theorem Turns.stays {b b' : Browser} {c : Call} (h : b.Turns c b') (hc : c.kind ≠ .navigate) :
    b.Stays b' := by
  cases h with
  | idle => exact .refl b
  | act _ i hi => exact b.stays_enter (Interaction.visited?_of_not_moves hi)
  | fill => exact ⟨rfl, [_], rfl, List.forall_mem_singleton.mpr rfl⟩
  | navigate => exact absurd rfl hc
  | click | bottom => exact b.stays_enter rfl
  | follow => exact ⟨rfl, [_], rfl, List.forall_mem_singleton.mpr rfl⟩
  | back => exact ⟨rfl, [_], rfl, List.forall_mem_singleton.mpr rfl⟩

end Browser

/-- How a host stands in front of a browser: a call reaches the browser, or it fails and leaves the
browser alone. -/
structure Front (σ : Type) [Host σ] where
  browser : σ → Browser
  /-- Which states of the host pass on what the browser answers. -/
  fair : σ → Prop
  fair_respond : ∀ c s, fair s → fair (Host.respond c s).2
  respond : ∀ c s, fair s →
    ((Host.respond c s).1 = ((browser s).respond c).1 ∧
        browser (Host.respond c s).2 = ((browser s).respond c).2) ∨
      (∃ e, (Host.respond c s).1 = .error e) ∧ browser (Host.respond c s).2 = browser s

def Browser.front : Front Browser where
  browser := id
  fair _ := True
  fair_respond _ _ h := h
  respond _ _ _ := .inl ⟨rfl, rfl⟩

/-- Whatever calls fail, nothing is hidden or put in the place of something else. -/
def Disturbance.IsFair (d : Disturbance) : Prop :=
  d.hidesStatus = false ∧ d.hidesViewport = false ∧ d.shownUrl = Option.none

theorem Disturbance.alter_of_isFair {d : Disturbance} (h : d.IsFair) (c : Call) (a : c.Answer) :
    d.alter c a = a := by
  obtain ⟨hstatus, hviewport, hurl⟩ := h
  cases c with
  | navigate url =>
    unfold alter
    rw [hstatus]
    rfl
  | currentUrl =>
    unfold alter
    rw [hurl]
    rfl
  | viewport =>
    unfold alter
    rw [hviewport]
    rfl
  | _ => rfl

def Rig.front : Front Rig where
  browser := (·.browser)
  fair r := r.disturbance.IsFair
  fair_respond c r h := by
    change (r.respond c).2.disturbance.IsFair
    unfold Rig.respond
    split <;> exact h
  respond c r h := by
    change ((r.respond c).1 = _ ∧ (r.respond c).2.browser = _) ∨
      (∃ e, (r.respond c).1 = _) ∧ (r.respond c).2.browser = _
    unfold Rig.respond
    split
    · exact .inr ⟨⟨_, rfl⟩, rfl⟩
    · refine .inl ⟨?_, rfl⟩
      dsimp only
      cases (r.browser.respond c).1 with
      | error e => rfl
      | ok a => exact congrArg Except.ok (Disturbance.alter_of_isFair h c a)

namespace Front

variable [Host σ] (f : Front σ)

/-- Since the journal was `before` and nothing had been taken down, the last navigation entered is
the visit taken down. -/
structure Mirrors (site : Site) (before : List Interaction) (s : Stage σ) : Prop where
  fair : f.fair s.host
  site_eq : (f.browser s.host).site = site
  last : ∃ made, (f.browser s.host).journal = before ++ made ∧ s.last = site.lastVisit? made

variable {f} {site : Site} {before : List Interaction} {s : Stage σ}

theorem Mirrors.stays (h : f.Mirrors site before s) {host : σ} (hfair : f.fair host)
    (hstays : (f.browser s.host).Stays (f.browser host)) :
    f.Mirrors site before { s with host := host } := by
  obtain ⟨made, hmade, hlast⟩ := h.last
  obtain ⟨more, hmore, hnone⟩ := hstays.journal
  refine ⟨hfair, hstays.site.trans h.site_eq, made ++ more, ?_, ?_⟩
  · rw [hmore, hmade, List.append_assoc]
  · rw [site.lastVisit?_append hnone]
    exact hlast

theorem mirrors_invariant (f : Front σ) (site : Site) (before : List Interaction) :
    Stage.Invariant (f.Mirrors site before) where
  clock s ms h := ⟨h.fair, h.site_eq, h.last⟩
  call c s hc h := by
    apply h.stays (f.fair_respond c s.host h.fair)
    obtain ⟨-, hbrowser⟩ | ⟨-, hbrowser⟩ := f.respond c s.host h.fair
    · rw [hbrowser]
      exact ((f.browser s.host).turns_respond c).stays hc
    · rw [hbrowser]
      exact .refl _
  visit url s v h hok := by
    have hfair := f.fair_respond (.navigate url) s.host h.fair
    obtain ⟨hanswer, hbrowser⟩ | ⟨⟨e, he⟩, -⟩ := f.respond (.navigate url) s.host h.fair
    -- the answer is a visit, so the call has reached the browser and did not fail there
    · obtain ⟨e, -, hnav⟩ | ⟨key, hnav⟩ := (f.browser s.host).respond_navigate url
      · rw [hanswer, hnav] at hok
        contradiction
      · rw [hanswer, hnav] at hok
        rw [hnav] at hbrowser
        obtain ⟨made, hmade, -⟩ := h.last
        obtain rfl := Except.ok.inj hok
        refine ⟨hfair, ?_, made ++ [.navigate key], ?_, ?_⟩
        · rw [hbrowser]
          exact h.site_eq
        · rw [hbrowser, ← List.append_assoc, ← hmade]
          rfl
        · rw [site.lastVisit?_concat, ← h.site_eq]
    · rw [he] at hok
      contradiction
  miss url s e h herror := by
    apply h.stays (f.fair_respond (.navigate url) s.host h.fair)
    obtain ⟨hanswer, hbrowser⟩ | ⟨-, hbrowser⟩ := f.respond (.navigate url) s.host h.fair
    · obtain ⟨e, -, hnav⟩ | ⟨key, hnav⟩ := (f.browser s.host).respond_navigate url
      · rw [hbrowser, hnav]
        exact .refl _
      · rw [hanswer, hnav] at herror
        contradiction
    · rw [hbrowser]
      exact .refl _

theorem mirrors_start (f : Front σ) (hfair : f.fair s.host) (hlast : s.last = none) :
    f.Mirrors (f.browser s.host).site (f.browser s.host).journal s :=
  ⟨hfair, rfl, [], (List.append_nil _).symm, hlast⟩

end Front

namespace Course

variable [Host σ] {c : Course}

theorem last_runStep_of_not_visits {step : Step} {command : Command} {args : Arguments}
    (hfind : c.catalogue.find? step.text = some (command, args)) (h : ¬ command.effect.visits)
    (d : Option Nat) (s : Stage σ) : (c.runStep d step s).2.last = s.last := by
  have hsame : Stage.StayInvariant fun s' : Stage σ => s'.last = s.last :=
    ⟨fun _ _ h => h, fun _ _ _ h => h⟩
  have hwithin := (command.effect.keeps_staying h args).within id (c.view s)
  rw [runStep_of_some hfind]
  exact Procedure.invariant_run hsame (fun _ hc => hc) hwithin d rfl

theorem Reach.mirrors (f : Front σ) {start s : Stage σ} (hreach : c.Reach start s)
    (hfair : f.fair start.host) (hstart : start.last = none) :
    f.Mirrors (f.browser start.host).site (f.browser start.host).journal s :=
  hreach.invariant (f.mirrors_invariant _ _) (f.mirrors_start hfair hstart)

/-- Wherever steps and runs lead that start with nothing taken down, the visit taken down last is
the last navigation entered since then, with the status that the site has for its URL; there is
none if none was entered. A step that enters none, because it failed or because it does something
else, leaves the visit as it is, and so does any step of a command that is not there to navigate. -/
theorem last_mirrors_journal (f : Front σ) {start s : Stage σ} (hfair : f.fair start.host)
    (hstart : start.last = none) (hreach : c.Reach start s) :
    let site := (f.browser start.host).site
    (∃ made, (f.browser s.host).journal = (f.browser start.host).journal ++ made ∧
      (s.last = none ↔ ∀ i ∈ made, i.visited? = none) ∧
      ∀ v, s.last = some v → v.status = some (site.route v.url).status ∧
        ∃ earlier more, made = earlier ++ .navigate v.url :: more ∧ ∀ i ∈ more, i.visited? = none) ∧
    ∀ d step, let after := (c.runStep d step s).2
      (∀ more, (f.browser after.host).journal = (f.browser s.host).journal ++ more →
        (∀ i ∈ more, i.visited? = none) → after.last = s.last) ∧
      ∀ command args, c.catalogue.find? step.text = some (command, args) →
        ¬ command.effect.visits → after.last = s.last := by
  intro site
  have hI := f.mirrors_invariant site (f.browser start.host).journal
  have hmirrors : f.Mirrors site (f.browser start.host).journal s :=
    hreach.mirrors f hfair hstart
  obtain ⟨made, hmade, hlast⟩ := hmirrors.last
  refine ⟨⟨made, hmade, ?_, fun v hv => ?_⟩, fun d step => ⟨fun more hmore hnone => ?_, ?_⟩⟩
  · rw [hlast]
    exact site.lastVisit?_eq_none_iff
  · exact site.of_lastVisit?_eq_some (hlast.symm.trans hv)
  · obtain ⟨all, hall, hafter⟩ := (invariant_runStep (c := c) hI d step hmirrors).last
    have hjournal : (f.browser start.host).journal ++ all =
        (f.browser start.host).journal ++ (made ++ more) := by
      rw [← hall, hmore, hmade, List.append_assoc]
    have hsame : all = made ++ more := List.append_cancel_left hjournal
    rw [hafter, hsame, site.lastVisit?_append hnone, hlast]
  · exact fun command args hfind h => last_runStep_of_not_visits hfind h d s

/-- A shop is opened, opening another page times out, and a link is followed to a page that is not
there: the visit is still that of the shop. -/
theorem last_mirrors_journal_shop :
    let home : Page := ⟨[⟨"a", [("href", "/gone")], "Gone", none, false⟩], [], [], ⟨0, 0⟩⟩
    let site := Site.empty.addRoute "https://shop.test/" 200 home
    let slow : Fault := ⟨.navigate, ⟨.navigationTimeout, none⟩, some [1]⟩
    let start : Stage Rig := ⟨Rig.start site { Disturbance.none with faults := [slow] }, 0, none⟩
    let c : Course := ⟨Catalogue.standard, Settings.standard, CaptureLimits.standard, 0⟩
    let s := (c.run [⟨1, "open https://shop.test/", 1⟩, ⟨2, "open https://shop.test/b", 2⟩,
      ⟨3, "click \"Gone\"", 3⟩] start).2
    Rig.front.fair start.host ∧ start.last = none ∧ c.Reach start s ∧
      s.host.browser.url = "https://shop.test/gone" ∧
      s.last = some ⟨"https://shop.test/", some 200⟩ ∧
      ∃ earlier more, s.host.browser.journal = earlier ++ .navigate "https://shop.test/" :: more ∧
        ∀ i ∈ more, i.visited? = none := by
  intro home site slow start c s
  have hfair : Rig.front.fair start.host := ⟨rfl, rfl, rfl⟩
  have hjournal : (Rig.front.browser start.host).journal = [] := rfl
  have hreach : c.Reach start s := .run .refl _
  obtain ⟨hurl, hlast⟩ : s.host.browser.url = "https://shop.test/gone" ∧
      s.last = some ⟨"https://shop.test/", some 200⟩ := by
    decide +kernel
  clear_value s
  obtain ⟨⟨made, hmade, -, hvisit⟩, -⟩ := last_mirrors_journal Rig.front hfair rfl hreach
  obtain ⟨-, earlier, more, hsplit, hmore⟩ := hvisit _ hlast
  rw [hjournal, List.nil_append, hsplit] at hmade
  exact ⟨hfair, rfl, hreach, hurl, hlast, earlier, more, hmade, hmore⟩

end Course

end Walkthrough
