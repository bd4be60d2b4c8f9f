import Walkthrough.Proofs.Walk.Links
import Walkthrough.Proofs.Walk.Pictures

namespace Walkthrough

open Script (menuImage)
open Text (joinPath)

/-- The first of equal entries are those that stay, so no two are left. -/
theorem nodup_eraseDups : ∀ l : List String, l.eraseDups.Nodup
  | [] => by simp
  | a :: rest => by
    have hnew : a ∉ (rest.filter fun b => !b == a).eraseDups := by simp
    rw [List.eraseDups_cons]
    exact List.nodup_cons.mpr ⟨hnew, nodup_eraseDups _⟩
  termination_by l => l.length
  decreasing_by exact Nat.lt_succ_of_le (List.length_filter_le _ _)

theorem ByteArray.toList_loop (bytes : ByteArray) (i : Nat) (read : List UInt8) :
    ByteArray.toList.loop bytes i read = read.reverse ++ bytes.data.toList.drop i := by
  induction i, read using ByteArray.toList.loop.induct bytes with
  | case1 i read hlt ih =>
    have hi : i < bytes.data.toList.length := hlt
    have hbyte : bytes.get! i = bytes.data.toList[i] := by
      rw [Array.getElem_toList]
      exact getElem!_pos bytes.data i hlt
    rw [ByteArray.toList.loop, if_pos hlt, ih, List.drop_eq_getElem_cons hi, hbyte]
    simp
  | case2 i read hge =>
    have hall : bytes.data.toList.length ≤ i := Nat.le_of_not_lt hge
    rw [ByteArray.toList.loop, if_neg hge, List.drop_of_length_le hall, List.append_nil]

theorem toList_toUTF8_append (s t : String) :
    (s ++ t).toUTF8.toList = s.toUTF8.toList ++ t.toUTF8.toList := by
  have hbytes (bytes : ByteArray) : bytes.toList = bytes.data.toList := by
    rw [ByteArray.toList, ByteArray.toList_loop]
    simp
  rw [hbytes, hbytes, hbytes, ← Array.toList_append, ← ByteArray.data_append]
  exact congrArg (fun bytes : ByteArray => bytes.data.toList) String.toByteArray_append

theorem Url.exists_toText_of_isWeb {u : Url} (h : u.isWeb) : ∃ rest, u.toText = "http" ++ rest := by
  unfold toText
  rcases (Bool.or_eq_true _ _).mp h with hscheme | hscheme
  · rw [beq_iff_eq.mp hscheme]
    simp only [String.append_assoc]
    exact ⟨_, rfl⟩
  · have hsplit : "https" = "http" ++ "s" := by decide
    rw [beq_iff_eq.mp hscheme, hsplit]
    simp only [String.append_assoc]
    exact ⟨_, rfl⟩

/-- The four bytes that a picture is named for are the same of all addresses on the web. -/
theorem Script.menuImage_of_isWeb {u : Url} (h : u.isWeb) :
    menuImage u.toText = "menu_68747470.png" := by
  obtain ⟨rest, hrest⟩ := u.exists_toText_of_isWeb h
  have hfour : (4 : Nat) ≤ "http".toUTF8.toList.length := by decide +kernel
  unfold menuImage
  rw [hrest, toList_toUTF8_append, List.take_append_of_le_length hfour]
  decide +kernel

def Interaction.picture? : Interaction → Option String
  | screenshot path _ => some path
  | _ => none

/-- What came of a visit: it failed, or there was no picture to be had, or there was. -/
inductive Landing
  | missed (e : SessionError)
  | unpictured (visit : Visit) (e : SessionError)
  | pictured (visit : Visit)

structure Outing where
  address : String
  landing : Landing

namespace Outing

def failed (o : Outing) : Bool :=
  match o.landing with
  | .missed _ | .unpictured _ _ => true
  | .pictured _ => false

/-- One attempt to get there, and if that succeeds one to take a picture of the whole page. -/
def exchanges (dir : String) (o : Outing) : List Exchange :=
  let picture := Call.screenshot (joinPath dir (menuImage o.address)) true
  match o.landing with
  | .missed e => [⟨.navigate o.address, .error e⟩]
  | .unpictured visit e => [⟨.navigate o.address, .ok visit⟩, ⟨picture, .error e⟩]
  | .pictured visit => [⟨.navigate o.address, .ok visit⟩, ⟨picture, .ok ()⟩]

def report (tour : List Outing) : Outcome :=
  let failed := tour.filter (·.failed)
  if tour = [] then .warned "no menu links found"
  else if failed = [] then .passed ("visited " ++ toString tour.length ++ " menu links")
  else .warned (toString failed.length ++ " of " ++ toString tour.length ++
    " menu links failed: " ++ ", ".intercalate (failed.map (·.address)))

theorem report_status (tour : List Outing) :
    ((report tour).status = .passed ∨ (report tour).status = .warned) ∧
      ((report tour).status = .passed ↔ tour ≠ [] ∧ ∀ o ∈ tour, o.failed = false) := by
  unfold report
  by_cases hnone : tour = []
  · simp [hnone, Outcome.warned]
  · by_cases hfine : tour.filter (·.failed) = []
    · have hall : ∀ o ∈ tour, o.failed = false := by simpa using hfine
      simpa [hnone, hfine, Outcome.passed] using hall
    · have hsome : ¬ ∀ o ∈ tour, o.failed = false := by simpa using hfine
      simp [hnone, hfine, Outcome.warned, hsome]

theorem message_report_iff (tour : List Outing) :
    (report tour).message = "no menu links found" ↔ tour = [] := by
  constructor
  · intro h
    -- the other reports begin with a digit or with another letter
    have hfirst : (report tour).message.toList.head? = some 'n' := by
      rw [h]
      decide
    by_contra hnone
    by_cases hfine : tour.filter (·.failed) = []
    · simp [report, hnone, hfine, Outcome.passed] at hfirst
    · have hdigits : Nat.toDigits 10 (tour.filter (·.failed)).length ≠ [] := Nat.toDigits_ne_nil
      have hmessage : ∃ rest, (report tour).message.toList =
          Nat.toDigits 10 (tour.filter (·.failed)).length ++ rest := by
        simp [report, hnone, hfine, Outcome.warned, toString, Nat.repr, List.append_assoc]
      obtain ⟨rest, hrest⟩ := hmessage
      rw [hrest, List.head?_append_of_ne_nil _ hdigits] at hfirst
      have hdigit : 'n'.isDigit := Nat.isDigit_of_mem_toDigits (by decide) (by decide)
        (List.mem_of_mem_head? hfirst)
      exact absurd hdigit (by decide)
  · rintro rfl
    rfl

end Outing

theorem Settings.resolve_toText (s : Settings) {u : Url} (hweb : u.isWeb)
    (hsettled : Url.parse u.toText = .ok u) : s.resolve u.toText = .ok u.toText := by
  have hkept : ((.ok u : Except UrlError Url).toOption.filter Url.isWeb) = some u := by
    simp [Except.toOption, Option.filter, hweb]
  unfold resolve
  rw [hsettled, hkept]

namespace Script

open Procedure (Performs)

variable [Host σ] {v : View}

theorem performs_navigate {target url : String} (h : v.settings.resolve target = .ok url)
    (d : Option Nat) (s : Stage σ) :
    ∃ (answer : Except SessionError Visit) (r : Except StepError Visit) (after : Stage σ),
      after.clock = s.clock ∧ r.isOk = answer.isOk ∧
        Performs d (navigate target v) s [⟨.navigate url, answer⟩] r after := by
  let tried : Stage σ := { s with host := (Host.respond (.navigate url) s.host).2 }
  have hrun := run_navigate target v d s
  have hurl : Performs d (ofExcept (.ok url) v) s [] (.ok url) s := Procedure.performs_done _ d s
  have hmade : Procedure.exchanges d (navigate target v) s =
      [⟨.navigate url, (Host.respond (.navigate url) s.host).1⟩] := by
    unfold navigate
    rw [settings_bind, h, exchanges_bind_of_performs hurl,
      exchanges_bind_of_performs (performs_ask (.navigate url) v d s)]
    -- whatever the answer is, there is no other call
    cases (Host.respond (.navigate url) s.host).1 with
    | ok visit => rfl
    | error e =>
      dsimp only
      split <;> rfl
  rw [h] at hrun
  dsimp only at hrun
  cases hanswer : (Host.respond (.navigate url) s.host).1 with
  | error e =>
    rw [hanswer] at hrun hmade
    exact ⟨.error e, .error _, tried, rfl, rfl, hrun, hmade⟩
  | ok visit =>
    rw [hanswer] at hrun hmade
    exact ⟨.ok visit, .ok visit, { tried with last := some visit }, rfl, rfl, hrun, hmade⟩

theorem performs_discard {m : Script α} {d : Option Nat} {s after : Stage σ} {made : List Exchange}
    {a : α} (hm : (m v).Performs d s made (.ok a) after) :
    Performs d (discard m v) s made (.ok ()) after := by
  rw [discard_eq, ← List.append_nil made]
  exact performs_bind hm (Procedure.performs_done _ d after)

/-- To visit a link is to go there and to take a picture; it fails if either does. -/
theorem performs_visitLink {address : String} (h : v.settings.resolve address = .ok address)
    (d : Option Nat) (s : Stage σ) :
    ∃ (o : Outing) (r : Except StepError Unit) (after : Stage σ), o.address = address ∧
      after.clock = s.clock ∧ r.isOk = !o.failed ∧
      Performs d (visitLink address v) s (o.exchanges v.settings.screenshots) r after := by
  let picture := Call.screenshot (joinPath v.settings.screenshots (menuImage address)) true
  obtain ⟨answer, r, landed, hclock, hr, hfirst⟩ := performs_navigate h d s
  unfold visitLink
  cases answer with
  | error e =>
    cases r with
    | ok visit => contradiction
    | error e' =>
      have hdiscard : Performs d (discard (navigate address) v) s [⟨.navigate address, .error e⟩]
          (.error e') landed := by
        rw [discard_eq]
        exact performs_bind_of_error hfirst _
      exact ⟨⟨address, .missed e⟩, _, landed, rfl, hclock, rfl, performs_bind_of_error hdiscard _⟩
  | ok visit =>
    cases r with
    | error e' => contradiction
    | ok visit' =>
      -- the page is there, and the picture decides
      have hdiscard := performs_discard hfirst
      rcases hshot : Host.respond picture landed.host with ⟨shot, host⟩
      cases shot with
      | error e =>
        exact ⟨⟨address, .unpictured visit e⟩, .error (.browser e), { landed with host := host },
          rfl, hclock, rfl, performs_bind hdiscard (performs_call_of_error hshot v d)⟩
      | ok _ =>
        exact ⟨⟨address, .pictured visit⟩, .ok (), { landed with host := host }, rfl, hclock, rfl,
          performs_bind hdiscard (performs_call_of_ok hshot v d)⟩

/-- All links are visited in turn, whether or not a visit fails. -/
theorem performs_failedVisits {links : List String}
    (h : ∀ address ∈ links, v.settings.resolve address = .ok address) (d : Option Nat)
    (s : Stage σ) :
    ∃ (tour : List Outing) (after : Stage σ), tour.map (·.address) = links ∧
      after.clock = s.clock ∧
      Performs d (failedVisits links v) s (tour.flatMap (·.exchanges v.settings.screenshots))
        (.ok ((tour.filter (·.failed)).map (·.address))) after := by
  induction links generalizing s with
  | nil => exact ⟨[], s, rfl, rfl, Procedure.performs_done _ d s⟩
  | cons address rest ih =>
    obtain ⟨hhead, hrest⟩ := List.forall_mem_cons.mp h
    obtain ⟨o, r, after, rfl, hclock, hr, hfirst⟩ := performs_visitLink hhead d s
    obtain ⟨tour, last, rfl, hlater, hothers⟩ := ih hrest after
    refine ⟨o :: tour, last, rfl, hlater.trans hclock, ?_⟩
    rw [List.flatMap_cons]
    refine performs_bind (performs_attempt hfirst) ?_
    cases r with
    | ok _ =>
      have hfine : o.failed = false := by simpa [Except.isOk, Except.toBool] using hr
      rw [List.filter_cons_of_neg (by simp [hfine])]
      exact hothers
    | error e =>
      have hfailed : o.failed = true := by simpa [Except.isOk, Except.toBool] using hr
      rw [List.filter_cons_of_pos hfailed, ← List.append_nil (tour.flatMap _)]
      exact performs_bind hothers (Procedure.performs_done _ d last)

theorem performs_visitMenu {s : Stage Rig} (hfair : s.host.disturbance.IsFair) {d : Option Nat}
    (hsettled : ∀ u ∈ s.host.browser.targets "nav a, header a, .menu a",
      Url.parse u.toText = .ok u)
    (hseen : Exchange.Seen (Procedure.exchanges d (visitMenu v) s)) :
    ∃ (lookups : List Exchange) (tour : List Outing) (after : Stage Rig),
      (∀ x ∈ lookups, x.call.Looks) ∧
      tour.map (·.address) = (((s.host.browser.targets "nav a, header a, .menu a").map
        Url.toText).eraseDups).take 12 ∧
      after.clock = s.clock ∧
      Performs d (visitMenu v) s
        (lookups ++ tour.flatMap (·.exchanges v.settings.screenshots))
        (.ok (Outing.report tour)) after := by
  obtain ⟨found, hfind⟩ := s.host.browser.page.find_of_selector
    (by decide +kernel : (Selector.parse "nav a, header a, .menu a").isOk)
  have hresolve : ∀ address ∈ (((s.host.browser.targets "nav a, header a, .menu a").map
      Url.toText).eraseDups).take 12, v.settings.resolve address = .ok address := by
    intro address haddress
    have hmem := List.mem_eraseDups.mp (List.mem_of_mem_take haddress)
    obtain ⟨u, hu, rfl⟩ := List.mem_map.mp hmem
    exact v.settings.resolve_toText (Browser.isWeb_of_mem_targets hu) (hsettled u hu)
  unfold visitMenu at hseen ⊢
  obtain ⟨lookups, turns, hlooks, hfirst⟩ := performs_linksOf hfair hfind (seen_left hseen)
  obtain ⟨tour, after, haddresses, hclock, htour⟩ :=
    performs_failedVisits hresolve d (s.noted turns [])
  rw [← haddresses] at htour
  -- without links nothing is visited, so the stage is the one that the lookups leave
  by_cases hnone : tour = []
  · subst hnone
    refine ⟨lookups, [], s.noted turns [], hlooks, haddresses, rfl, performs_bind hfirst ?_⟩
    rw [← haddresses]
    exact Procedure.performs_done _ d _
  · refine ⟨lookups, tour, after, hlooks, haddresses, hclock, performs_bind hfirst ?_⟩
    rw [← haddresses, List.isEmpty_map, List.length_map, if_neg (by simpa using hnone),
      ← List.append_nil (tour.flatMap _)]
    refine performs_bind htour ?_
    unfold Outing.report
    by_cases hfine : tour.filter (·.failed) = []
    · rw [if_neg hnone, if_pos hfine, hfine]
      exact Procedure.performs_done _ d _
    · rw [if_neg hnone, if_neg hfine, if_neg (by simpa using hfine), List.length_map]
      exact Procedure.performs_done _ d _

end Script

namespace Course

/-- A step that goes through the menu tries to visit each address that the menu links to once, at most
twelve of them, in document order and whether or not a visit fails, and takes a picture of the whole
page after each visit that succeeds. It passes if there are links and nothing fails, and otherwise
reports that there are none or which of them failed. -/
theorem menu_visited_once {c : Course} {step : Step} {command : Command} {args : Arguments}
    (hfind : c.catalogue.find? step.text = some (command, args))
    (heffect : command.effect = .act .visitMenu) {s : Stage Rig}
    (hfair : s.host.disturbance.IsFair)
    (hsettled : ∀ u ∈ s.host.browser.targets "nav a, header a, .menu a",
      Url.parse u.toText = .ok u)
    (d : Option Nat) (hseen : Exchange.Seen ((c.procedure s command args).exchanges d s)) :
    let links := (((s.host.browser.targets "nav a, header a, .menu a").map
      Url.toText).eraseDups).take 12
    links.Nodup ∧ ∃ (lookups : List Exchange) (tour : List Outing),
      (c.procedure s command args).exchanges d s =
        lookups ++ tour.flatMap (·.exchanges c.settings.screenshots) ∧
      (∀ x ∈ lookups, x.call.Looks) ∧
      tour.map (·.address) = links ∧
      (c.runStep d step s).1 = some ⟨step.number, step.text, some command.name,
        (Outing.report tour).status, (Outing.report tour).message, 0⟩ ∧
      ((Outing.report tour).status = .passed ∨ (Outing.report tour).status = .warned) ∧
      ((Outing.report tour).status = .passed ↔ links ≠ [] ∧ ∀ o ∈ tour, o.failed = false) ∧
      ((Outing.report tour).message = "no menu links found" ↔ links = []) := by
  intro links
  have hprocedure : c.procedure s command args = Script.visitMenu (c.view s) :=
    procedure_of_act heffect args
  rw [hprocedure] at hseen ⊢
  obtain ⟨lookups, tour, after, hlooks, haddresses, hclock, hperforms⟩ :=
    Script.performs_visitMenu hfair hsettled hseen
  have hlinks : links = tour.map (·.address) := haddresses.symm
  have hstep := runStep_of_some hfind d s
  rw [hprocedure, hperforms.run, hclock, Nat.sub_self] at hstep
  obtain ⟨hregular, hpassed⟩ := Outing.report_status tour
  refine ⟨(nodup_eraseDups _).sublist (List.take_sublist _ _), lookups, tour, hperforms.exchanges,
    hlooks, haddresses, congrArg Prod.fst hstep, hregular, ?_, ?_⟩
  · rw [hpassed, hlinks, ne_eq, ne_eq, List.map_eq_nil_iff]
  · rw [Outing.message_report_iff, hlinks, List.map_eq_nil_iff]

theorem exists_find?_visitMenu :
    ∃ command args, Catalogue.standard.find? "click each menu item" = some (command, args) ∧
      command.name = "click each menu item" ∧ command.effect = .act .visitMenu :=
  Catalogue.exists_find?_of_row "^click each menu item$" (by simp [Catalogue.standardRows])
    (by decide +kernel) (by decide) (by decide)

/-- A menu has three links, one of them twice; the second page does not load, and of the third no
picture can be taken. -/
theorem menu_visited_once_shop :
    let link (reference : String) (parent : Nat) : Element :=
      ⟨"a", [("href", reference)], "", some parent, false⟩
    let page : Page := ⟨[⟨"nav", [], "", none, false⟩, link "/deals" 0,
      ⟨"header", [], "", none, false⟩, link "/deals" 2, ⟨"p", [("class", "menu")], "", none, false⟩,
      link "/about" 4, link "mailto:a@b.c" 4, link "/help" 4], [], [], ⟨0, 0⟩⟩
    let site := Site.empty.addRoute "https://shop.test/" 200 page
    let slow : Fault := ⟨.navigate, ⟨.navigationTimeout, none⟩, some [1]⟩
    let dark : Fault := ⟨.screenshot, ⟨.internal, none⟩, some [1]⟩
    let shown : Browser := (Browser.start site).visit "https://shop.test/"
    let c : Course := ⟨Catalogue.standard, Settings.standard, CaptureLimits.standard, 0⟩
    let s : Stage Rig := ⟨⟨shown, { Disturbance.none with faults := [slow, dark] }, []⟩, 0, none⟩
    let step : Step := ⟨1, "click each menu item", 1⟩
    s.host.disturbance.IsFair ∧
      (∀ u ∈ s.host.browser.targets "nav a, header a, .menu a", Url.parse u.toText = .ok u) ∧
      ∃ command args, c.catalogue.find? step.text = some (command, args) ∧
        command.effect = .act .visitMenu ∧
        Exchange.Seen ((c.procedure s command args).exchanges none s) ∧
        (∃ (lookups : List Exchange) (tour : List Outing), (c.procedure s command args).exchanges
            none s = lookups ++ tour.flatMap (·.exchanges c.settings.screenshots) ∧
          tour.map (·.address) = ["https://shop.test/deals", "https://shop.test/about",
            "https://shop.test/help"]) ∧
        (c.runStep none step s).1 = some ⟨1, "click each menu item", some "click each menu item",
          .warned, "2 of 3 menu links failed: https://shop.test/about, https://shop.test/help",
          0⟩ := by
  intro link page site slow dark shown c s step
  have hfair : s.host.disturbance.IsFair := ⟨rfl, rfl, rfl⟩
  have hsettled : ∀ u ∈ s.host.browser.targets "nav a, header a, .menu a",
      Url.parse u.toText = .ok u := by
    decide +kernel
  have hline : ∃ command args, c.catalogue.find? step.text = some (command, args) ∧
      command.name = "click each menu item" ∧ command.effect = .act .visitMenu :=
    exists_find?_visitMenu
  have hlooks : Exchange.Seen (Procedure.exchanges none (Script.visitMenu (c.view s)) s) := by
    decide +kernel
  have hlinks : (((s.host.browser.targets "nav a, header a, .menu a").map
      Url.toText).eraseDups).take 12 = ["https://shop.test/deals", "https://shop.test/about",
        "https://shop.test/help"] := by
    decide +kernel
  have hrecord : (c.runStep none step s).1 = some ⟨1, "click each menu item",
      some "click each menu item", .warned,
      "2 of 3 menu links failed: https://shop.test/about, https://shop.test/help", 0⟩ := by
    decide +kernel
  clear_value s c
  obtain ⟨command, args, hfind, -, heffect⟩ := hline
  have hseen : Exchange.Seen ((c.procedure s command args).exchanges none s) := by
    rw [procedure_of_act heffect]
    exact hlooks
  obtain ⟨-, lookups, tour, hmade, -, haddresses, -⟩ :=
    menu_visited_once hfind heffect hfair hsettled none hseen
  exact ⟨hfair, hsettled, command, args, hfind, heffect, hseen,
    ⟨lookups, tour, hmade, haddresses.trans hlinks⟩, hrecord⟩

/-- Whatever fails and wherever the deadline ends it, a step that goes through the menu puts all its
pictures in the same place: no two are distinct, and only the last one is left. -/
theorem menu_pictures_coincide {c : Course} {step : Step} {command : Command} {args : Arguments}
    (hfind : c.catalogue.find? step.text = some (command, args))
    (heffect : command.effect = .act .visitMenu) (d : Option Nat) (s : Stage Rig) :
    ∃ made, (c.runStep d step s).2.host.browser.journal = s.host.browser.journal ++ made ∧
      let pictures := made.filterMap (·.picture?)
      pictures = List.replicate pictures.length
          (joinPath c.settings.screenshots "menu_68747470.png") ∧
        (pictures.Nodup ↔ pictures.length ≤ 1) := by
  have hmakes : Procedure.Makes
      (Call.Puts (· = joinPath c.settings.screenshots "menu_68747470.png"))
      (Script.visitMenu (c.view s)) := by
    apply Script.makes_visitMenu
    intro u hweb
    rw [Script.menuImage_of_isWeb hweb]
    rfl
  have hadds := hmakes.host_run (I := fun r : Rig => s.host.browser.Adds (·.Puts _) r.browser)
    (fun call r hcall h => h.trans (r.adds_respond hcall)) d (.refl _)
  obtain ⟨made, hmade, hputs⟩ := hadds
  have hsame : ∀ path ∈ made.filterMap (·.picture?),
      path = joinPath c.settings.screenshots "menu_68747470.png" := by
    intro path hpath
    obtain ⟨i, hi, hpicture⟩ := List.mem_filterMap.mp hpath
    cases i with
    | screenshot other fullPage =>
      obtain rfl := Option.some.inj hpicture
      exact hputs _ hi
    | _ => contradiction
  have hpictures := List.eq_replicate_iff.mpr ⟨rfl, hsame⟩
  refine ⟨made, ?_, hpictures, ?_⟩
  · rw [runStep_of_some hfind, procedure_of_act heffect]
    exact hmade
  · rw [hpictures, List.nodup_replicate, List.length_replicate]

def menuShop (references : List String) : Browser :=
  let links : List Element := references.map fun r => ⟨"a", [("href", r)], "", some 0, false⟩
  let page : Page := ⟨⟨"nav", [], "", none, false⟩ :: links, [], [], ⟨0, 0⟩⟩
  (Browser.start (Site.empty.addRoute "https://shop.test/" 200 page)).visit "https://shop.test/"

theorem menu_pictures_coincide_one :
    let c : Course := ⟨Catalogue.standard, Settings.standard, CaptureLimits.standard, 0⟩
    let s : Stage Rig := ⟨⟨menuShop ["/a"], Disturbance.none, []⟩, 0, none⟩
    let step : Step := ⟨1, "click each menu item", 1⟩
    (∃ command args, c.catalogue.find? step.text = some (command, args) ∧
        command.effect = .act .visitMenu) ∧
      ∃ made, (c.runStep none step s).2.host.browser.journal = made ∧
        (made.filterMap (·.picture?)).length = 1 ∧ (made.filterMap (·.picture?)).Nodup := by
  intro c s step
  have hline : ∃ command args, c.catalogue.find? step.text = some (command, args) ∧
      command.name = "click each menu item" ∧ command.effect = .act .visitMenu :=
    exists_find?_visitMenu
  have hone :
      ((c.runStep none step s).2.host.browser.journal.filterMap (·.picture?)).length = 1 := by
    decide +kernel
  obtain ⟨command, args, hfind, -, heffect⟩ := hline
  obtain ⟨made, hmade, -, hdistinct⟩ := menu_pictures_coincide hfind heffect none s
  have hjournal : (c.runStep none step s).2.host.browser.journal = made := hmade
  rw [hjournal] at hone
  exact ⟨⟨command, args, hfind, heffect⟩, made, hjournal, hone, hdistinct.mpr (Nat.le_of_eq hone)⟩

/-- Two pages are visited, and the picture of the second one takes the place of that of the first. -/
theorem menu_picture_replaced :
    let c : Course := ⟨Catalogue.standard, Settings.standard, CaptureLimits.standard, 0⟩
    let s : Stage Rig := ⟨⟨menuShop ["/a", "/b"], Disturbance.none, []⟩, 0, none⟩
    let after := c.runStep none ⟨1, "click each menu item", 1⟩ s
    after.1.map (·.message) = some "visited 2 menu links" ∧
      after.2.host.browser.journal =
        [.navigate "https://shop.test/a", .screenshot "screenshots/menu_68747470.png" true,
          .navigate "https://shop.test/b", .screenshot "screenshots/menu_68747470.png" true] ∧
      ¬ (after.2.host.browser.journal.filterMap (·.picture?)).Nodup := by
  decide +kernel

end Course

end Walkthrough
