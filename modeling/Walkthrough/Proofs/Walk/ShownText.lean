import Walkthrough.Command.Standard
import Walkthrough.Proofs.Page.Innermost
import Walkthrough.Proofs.Walk.Invariant
import Walkthrough.Proofs.Walk.Run

namespace Walkthrough

def Browser.showing (b : Browser) (text : String) : List Handle :=
  b.handles (b.page.innermost (.contains text))

namespace Procedure

theorem run_poll_of_ok [Host σ] {look : Procedure (Except ε α)} {d : Option Nat}
    {s after : Stage σ} {a : α} (h : look.run d s = (some (.ok a), after)) (timeout : Nat) :
    (poll look timeout).run d s = (some (.ok a), after) := by
  rw [poll, pollFrom, run_bind, h]
  rfl

/-- To wait for a text that is there takes no time. -/
theorem run_awaitElement_of_showing {s : Stage Browser} {text : String} {h : Handle}
    {more : List Handle} (hfound : s.host.showing text = h :: more) (timeout : Nat)
    (d : Option Nat) :
    (awaitElement (.text (.contains text)) timeout).run d s = (some (.ok h), s) := by
  have hlook : (lookFor (.text (.contains text))).run d s = (some (.ok (.ok h)), s) := by
    change ((ask (.query (.text (.contains text)))).bind _).run d s = _
    rw [run_bind]
    have hask : (ask (.query (.text (.contains text)))).run d s =
        (some (.ok (s.host.showing text)), s) := rfl
    rw [hask, hfound]
    rfl
  change ((poll (lookFor (.text (.contains text))) timeout).bind _).run d s = _
  rw [run_bind, run_poll_of_ok hlook]
  rfl

end Procedure

namespace Script

variable {s : Stage Browser} {args : Arguments}

theorem run_expectText (hfound : s.host.showing (args.text 1) ≠ []) (v : View) (d : Option Nat) :
    Procedure.run d (expectText args v) s =
      (some (.ok (.passed ("found \"" ++ args.text 1 ++ "\" (" ++
        toString (s.host.showing (args.text 1)).length ++ " occurrences)"))), s) := by
  have hsome : (s.host.showing (args.text 1)).isEmpty = false := by simpa using hfound
  have hcall : Procedure.run d (call (.query (.text (.contains (args.text 1)))) v) s =
      (some (.ok (s.host.showing (args.text 1))), s) := rfl
  unfold expectText
  rw [bind_apply, Procedure.run_bind, hcall]
  dsimp only
  rw [hsome]
  rfl

theorem run_awaitText (hfound : s.host.showing (args.text 1) ≠ []) (v : View) (d : Option Nat) :
    Procedure.run d (awaitText args v) s =
      (some (.ok (.passed ("\"" ++ args.text 1 ++ "\" appeared"))), s) := by
  obtain ⟨h, more, hhandles⟩ := List.exists_cons_of_ne_nil hfound
  have hawait := Procedure.run_awaitElement_of_showing hhandles v.settings.timeouts.awaitText d
  unfold awaitText
  rw [settings_bind, bind_apply, Procedure.run_bind]
  have hlift : Procedure.run d (lift (Procedure.awaitElement (.text (.contains (args.text 1)))
      v.settings.timeouts.awaitText) v) s = (some (.ok (.ok h)), s) := by
    change Procedure.run d (Procedure.bind _ _) s = _
    rw [Procedure.run_bind, hawait]
    rfl
  rw [hlift]
  rfl

end Script

namespace Course

variable {c : Course} {s : Stage Browser} {step : Step} {command : Command} {args : Arguments}

theorem runStep_of_script {action : Action} {d : Option Nat} {o : Outcome}
    (hfind : c.catalogue.find? step.text = some (command, args))
    (heffect : command.effect = .act action)
    (hrun : Procedure.run d (action.script args (c.view s)) s = (some (.ok o), s)) :
    c.runStep d step s =
      (some ⟨step.number, step.text, some command.name, o.status, o.message, 0⟩, s) := by
  rw [← procedure_of_act heffect] at hrun
  rw [runStep_of_some hfind, hrun, Nat.sub_self]
  rfl

/-- An element that shows its text is found by a search that its own text fits, it or one inside it,
unless something inside it that the search fits is not shown. A step that expects the text then
passes, and a step that waits for it passes at once, with the time and the browser as they were. -/
theorem shown_text_found (hp : s.host.page.IsForest) {i : Nat} {e : Element}
    (he : s.host.page.element? i = some e) (hshown : s.host.page.ShowsText i) {w : Wording}
    (hfits : w.fits e.text = true)
    (hinside : ∀ j, s.host.page.IsAncestor i j → w.fits (s.host.page.textContent j) = true →
      s.host.page.ShowsText j) :
    ∃ found, s.host.page.find (.text w) = .ok found ∧
      (∃ j ∈ found, Relation.ReflTransGen s.host.page.IsParent i j) ∧
      ∀ (c : Course) (d : Option Nat) (step : Step) (command : Command) (args : Arguments),
        c.catalogue.find? step.text = some (command, args) → w = .contains (args.text 1) →
        (command.effect = .act .expectText → c.runStep d step s =
          (some ⟨step.number, step.text, some command.name, .passed, "found \"" ++ args.text 1 ++
            "\" (" ++ toString found.length ++ " occurrences)", 0⟩, s)) ∧
        (command.effect = .act .awaitText → c.runStep d step s =
          (some ⟨step.number, step.text, some command.name, .passed,
            "\"" ++ args.text 1 ++ "\" appeared", 0⟩, s)) := by
  have hsize : i < s.host.page.size := (List.getElem?_eq_some_iff.mp he).1
  have hall : ∀ j, Relation.ReflTransGen s.host.page.IsParent i j →
      w.fits (s.host.page.textContent j) = true → s.host.page.ShowsText j := by
    intro j hbelow hj
    rcases Relation.reflTransGen_iff_eq_or_transGen.mp hbelow with rfl | hinner
    · exact hshown
    · exact hinside j hinner hj
  obtain ⟨j, hj, hbelow⟩ := hp.exists_mem_innermost hsize (hp.fits_own he hfits) hall
  refine ⟨_, s.host.page.find_text w, ⟨j, hj, hbelow⟩, fun c d step command args hfind hw => ?_⟩
  subst hw
  have hfound : s.host.showing (args.text 1) ≠ [] :=
    List.ne_nil_of_mem (List.mem_map_of_mem hj)
  have hlength : (s.host.showing (args.text 1)).length =
      (s.host.page.innermost (.contains (args.text 1))).length := List.length_map _
  rw [← hlength]
  exact ⟨fun heffect => runStep_of_script hfind heffect (Script.run_expectText hfound _ d),
    fun heffect => runStep_of_script hfind heffect (Script.run_awaitText hfound _ d)⟩

theorem exists_find?_of_text {k : Catalogue} {line name text : String} {effect : Effect}
    (h : (k.find? line).map (fun (command, args) => (command.name, command.effect, args.text 1)) =
      some (name, effect, text)) :
    ∃ command args, k.find? line = some (command, args) ∧ command.name = name ∧
      command.effect = effect ∧ args.text 1 = text := by
  obtain ⟨⟨command, args⟩, hfind, hcommand⟩ := Option.map_eq_some_iff.mp h
  simp only [Prod.mk.injEq] at hcommand
  exact ⟨command, args, hfind, hcommand⟩

/-- An offer with a word of it marked, a hidden copy beside it and a script that has the word. -/
theorem shown_text_found_marked :
    let element (tag text : String) (parent : Option Nat) : Element := ⟨tag, [], text, parent, false⟩
    let p : Page := ⟨[element "p" " Big SALE " none, element "b" "sale" (some 0),
      (element "p" "Sale" none).hide, element "script" "sale()" none], [], [], ⟨0, 0⟩⟩
    let s : Stage Browser := ⟨{ Browser.start Site.empty with page := p }, 7, none⟩
    let c : Course := ⟨Catalogue.standard, Settings.standard, CaptureLimits.standard, 0⟩
    let w : Wording := .contains "sale"
    p.IsForest ∧ p.ShowsText 0 ∧ w.fits " Big SALE " = true ∧
      (∀ j, p.IsAncestor 0 j → w.fits (p.textContent j) = true → p.ShowsText j) ∧
      p.find (.text w) = .ok [1] ∧
      c.runStep (some 0) ⟨1, "expect page to contain \"sale\"", 1⟩ s =
        (some ⟨1, "expect page to contain \"sale\"", some "expect page to contain", .passed,
          "found \"sale\" (1 occurrences)", 0⟩, s) ∧
      c.runStep (some 0) ⟨2, "wait for \"sale\"", 2⟩ s =
        (some ⟨2, "wait for \"sale\"", some "wait for", .passed, "\"sale\" appeared", 0⟩, s) := by
  intro element p s c w
  have hp : s.host.page.IsForest := Page.isForest_of_ranks [0, 1, 0, 0] (by decide)
  have hshown : ∀ j < 2, s.host.page.ShowsText j := by
    intro j hj
    rw [hp.showsText_iff]
    revert j
    decide +kernel
  have hbelow : ∀ j < 4, 0 ∈ s.host.page.ancestors j → j < 2 := by decide +kernel
  have hinside : ∀ j, s.host.page.IsAncestor 0 j → w.fits (s.host.page.textContent j) = true →
      s.host.page.ShowsText j := by
    intro j habove _
    obtain ⟨parent, -, hparent⟩ := Relation.TransGen.tail'_iff.mp habove
    exact hshown j (hbelow j hparent.child_lt (hp.mem_ancestors_iff.mpr habove))
  have hfits : w.fits " Big SALE " = true := by decide +kernel
  have hoffer : s.host.page.element? 0 = some (element "p" " Big SALE " none) := rfl
  obtain ⟨found, hfound, -, hrun⟩ :=
    shown_text_found hp hoffer (hshown 0 (by decide)) hfits hinside
  have hone : s.host.page.find (.text w) = .ok [1] := by decide +kernel
  obtain rfl : found = [1] := Except.ok.inj (hfound.symm.trans hone)
  have hlines :
      (c.catalogue.find? "expect page to contain \"sale\"").map (fun (command, args) =>
          (command.name, command.effect, args.text 1)) =
        some ("expect page to contain", .act .expectText, "sale") ∧
      (c.catalogue.find? "wait for \"sale\"").map (fun (command, args) =>
          (command.name, command.effect, args.text 1)) =
        some ("wait for", .act .awaitText, "sale") := by
    decide +kernel
  refine ⟨hp, hshown 0 (by decide), hfits, hinside, hone, ?_, ?_⟩
  · obtain ⟨command, args, hfind, hname, heffect, htext⟩ := exists_find?_of_text hlines.1
    have hstep := (hrun c (some 0) ⟨1, "expect page to contain \"sale\"", 1⟩ command args hfind
      (by rw [htext])).1 heffect
    rw [hname, htext] at hstep
    exact hstep
  · obtain ⟨command, args, hfind, hname, heffect, htext⟩ := exists_find?_of_text hlines.2
    have hstep := (hrun c (some 0) ⟨2, "wait for \"sale\"", 2⟩ command args hfind
      (by rw [htext])).2 heffect
    rw [hname, htext] at hstep
    exact hstep

/-- The offer has a hidden copy inside, and a search for it finds nothing. -/
theorem shown_text_lost :
    let p : Page := ⟨[⟨"p", [], "Sale", none, false⟩,
      Element.hide ⟨"span", [], "Sale", some 0, false⟩], [], [], ⟨0, 0⟩⟩
    let s : Stage Browser := ⟨{ Browser.start Site.empty with page := p }, 0, none⟩
    let c : Course := ⟨Catalogue.standard, Settings.standard, CaptureLimits.standard, 0⟩
    p.IsForest ∧ p.ShowsText 0 ∧ (Wording.contains "Sale").fits "Sale" = true ∧
      p.find (.text (.contains "Sale")) = .ok [] ∧
      (c.runStep none ⟨1, "expect page to contain \"Sale\"", 1⟩ s).1 =
        some ⟨1, "expect page to contain \"Sale\"", some "expect page to contain", .warned,
          "text not found on page: \"Sale\"", 0⟩ := by
  intro p s c
  have hp : p.IsForest := Page.isForest_of_ranks [0, 1] (by decide)
  have hshown : p.ShowsText 0 := hp.showsText_iff.mpr (by decide +kernel)
  exact ⟨hp, hshown, by decide +kernel, by decide +kernel, by decide +kernel⟩

end Course

end Walkthrough
