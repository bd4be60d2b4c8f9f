import Walkthrough.Command.Standard
import Walkthrough.Proofs.Browser.Effects
import Walkthrough.Proofs.Walk.Invariant

namespace Walkthrough

theorem Script.run_navigate_of_error {target : String} {v : View} {d : Option Nat}
    {s : Stage Browser} {e : StepError}
    (h : (Procedure.run d (navigate target v) s).1 = some (.error e)) :
    (Procedure.run d (navigate target v) s).2 = s := by
  rw [run_navigate] at h ⊢
  cases hresolve : v.settings.resolve target with
  | error e => rfl
  | ok url =>
    rw [hresolve] at h
    dsimp only at h ⊢
    cases hanswer : (Host.respond (.navigate url) s.host).1 with
    | ok visit =>
      rw [hanswer] at h
      cases h
    | error e =>
      have hhost : (Host.respond (.navigate url) s.host).2 = s.host :=
        (s.host.settled_respond (.navigate url)).eq_of_error hanswer
      rw [hhost]

/-- A call that fails leaves the browser as it was: URL, page, history and journal, and what has been
reported. A call that succeeds is entered in the journal once, however much else it does, or not at
all where it only looks; so does a wait, which is many looks. And a step whose navigation fails has
changed nothing: neither the browser nor what is captured of it nor the last navigation. -/
theorem Course.calls_are_atomic (c : Course) (s : Stage Browser) (d : Option Nat) :
    (∀ call : Call,
      let r := s.host.respond call
      (∀ e, r.1 = .error e → r.2 = s.host) ∧
        ∀ a, r.1 = .ok a → r.2.journal = s.host.journal ++ call.entry?.toList) ∧
    (∀ q timeout, ((Procedure.awaitElement q timeout).run d s).2.host = s.host) ∧
    ∀ target e,
      let r := Procedure.run d (Script.navigate target (c.view s)) s
      r.1 = some (.error e) → r.2 = s ∧ (c.view r.2).capture = (c.view s).capture := by
  refine ⟨fun call => ⟨fun e h => ?_, fun a h => ?_⟩, fun q timeout => ?_, fun target e => ?_⟩
  · exact (s.host.settled_respond call).eq_of_error h
  · exact (s.host.settled_respond call).journal_of_ok h
  · exact Procedure.host_of_awaitElement (fun b => b.query_leaves q) timeout d s
  · intro r h
    have hsame : r.2 = s := Script.run_navigate_of_error h
    exact ⟨hsame, by rw [hsame]⟩

/-- On a page with a link, what is entered into an element that is not there is lost, a click is
entered once although it also loads a page, and a path leads nowhere without a base URL. -/
theorem Course.calls_are_atomic_link :
    let home : Page := ⟨[⟨"a", [("href", "/gone")], "Gone", none, false⟩], [], [], ⟨0, 0⟩⟩
    let site := Site.empty.addRoute "https://shop.test/" 200 home
    let b := ((Browser.start site).respond (.navigate "https://shop.test/")).2
    let s : Stage Browser := ⟨b, 0, none⟩
    let c : Course := ⟨Catalogue.standard, Settings.standard, CaptureLimits.standard, 0⟩
    let gone : Call := .fill ⟨1, "input"⟩ "1"
    let click : Call := .click ⟨0, "a"⟩
    let missing : StepError := .configuration "base_url is required for relative paths"
    let r := Procedure.run none (Script.navigate "/cart" (c.view s)) s
    (b.respond gone).1 = .error (Browser.stale ⟨1, "input"⟩) ∧ (b.respond gone).2 = b ∧
      (b.respond click).1 = .ok () ∧
      (b.respond click).2.journal = [.navigate "https://shop.test/", .click 0] ∧
      r.1 = some (.error missing) ∧ r.2 = s := by
  intro home site b s c gone click missing r
  have hfails : (b.respond gone).1 = .error (Browser.stale ⟨1, "input"⟩) := rfl
  have hclicks : (b.respond click).1 = .ok () := rfl
  have hjournal : b.journal = [.navigate "https://shop.test/"] := by
    decide +kernel
  have hmisses : r.1 = some (.error missing) := rfl
  obtain ⟨hcalls, -, hnavigate⟩ := Course.calls_are_atomic c s none
  refine ⟨hfails, (hcalls gone).1 _ hfails, hclicks, ?_, hmisses, (hnavigate _ _ hmisses).1⟩
  rw [(hcalls click).2 () hclicks]
  exact congrArg (· ++ [.click 0]) hjournal

end Walkthrough
