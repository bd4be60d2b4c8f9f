import Mathlib.Data.List.Basic
import Walkthrough.Command.Standard
import Walkthrough.Proofs.Browser.Turns
import Walkthrough.Proofs.Command.Catalogue
import Walkthrough.Proofs.Walk.Run

namespace Walkthrough

namespace Catalogue

/-- The standard commands that ask what the session knows, and no more. -/
def observers : List String :=
  ["check loadtime", "check console", "check missing-resources", "check broken-images",
    "check favicon-meta", "expect page to contain", "upload images", "validate success",
    "validate listing appears", "seller info test", "description load", "missing images",
    "validate feed", "pagination check", "validate moderation", "successful submission",
    "validation check", "page load budget", "minify css/js", "browser or device", "iphone 14/15",
    "android phones", "laptop + desktop monitors", "form validation"]

/-- Lines that no standard command matches, that are headings or noted, or that go to an
observer. -/
def isObserver (line : String) : Bool :=
  match standard.find? line with
  | none => true
  | some (command, _) =>
    match command.effect with
    | .heading | .note _ => true
    | .act _ => observers.contains command.name

theorem looks_of_observer {r : String × String × Effect} (hr : r ∈ standardRows)
    (hn : r.1 ∈ observers) : r.2.2.looks := by
  have hrows : standardRows.all (fun r => !observers.contains r.1 || r.2.2.looks) := by
    decide +kernel
  have hrow := List.all_eq_true.mp hrows r hr
  simpa [hn] using hrow

theorem looks_of_isObserver {line : String} (h : isObserver line) {command : Command}
    {args : Arguments} (hfind : standard.find? line = some (command, args)) :
    command.effect.looks := by
  unfold isObserver at h
  rw [hfind] at h
  dsimp only at h
  split at h
  · rename_i he
    rw [he, Effect.looks]
  · rename_i he
    rw [he, Effect.looks]
  · obtain ⟨r, hr, hname, heffect⟩ := row_of_mem (mem_of_find? hfind).1
    rw [heffect]
    exact looks_of_observer hr (hname ▸ List.contains_iff_mem.mp h)

end Catalogue

theorem Browser.respond_of_looks {c : Call} (hc : c.Looks) (b : Browser) : (b.respond c).2 = b := by
  cases c with
  | query q => exact b.query_leaves q
  | text | attributeOf | inputValue =>
    unfold respond withElement
    dsimp only
    split <;> rfl
  | currentUrl | loadTiming | images | viewport => rfl
  | _ => exact hc.elim

/-- The entries of a list at the places that `keep` tells to keep. -/
def pick (keep : Nat → Bool) : List α → List α
  | [] => []
  | a :: l =>
    if keep 0 then a :: pick (fun i => keep (i + 1)) l else pick (fun i => keep (i + 1)) l

theorem pick_map (f : α → β) (keep : Nat → Bool) (l : List α) :
    pick keep (l.map f) = (pick keep l).map f := by
  induction l generalizing keep with
  | nil => rfl
  | cons a l ih =>
    rw [List.map_cons, pick, pick]
    split
    · rw [ih, List.map_cons]
    · exact ih _

namespace Course

/-- An observer ends by itself and leaves everything as it is. -/
theorem runStep_of_observer {c : Course} (hc : c.catalogue = Catalogue.standard) {step : Step}
    (h : Catalogue.isObserver step.text) (d : Option Nat) (s : Stage Browser) :
    ∃ r, c.runStep d step s = (some r, s) := by
  cases hfind : c.catalogue.find? step.text with
  | none => exact ⟨_, runStep_of_none hfind d s⟩
  | some found =>
    obtain ⟨command, args⟩ := found
    have hkeeps := Effect.keeps_of_looks (t := .looking)
      (Catalogue.looks_of_isObserver h (hc ▸ hfind)) args
    obtain ⟨result, hrun⟩ := Procedure.run_of_within (σ := Browser)
      (fun _ hlooks b => b.respond_of_looks hlooks) (hkeeps.within id (c.view s)) d s
    have hrun : (c.procedure s command args).run d s = (some result, s) := hrun
    rw [runStep_of_some hfind, hrun]
    exact ⟨_, rfl⟩

theorem runSteps_pick {c : Course} (hc : c.catalogue = Catalogue.standard) (d : Option Nat)
    (steps : List Step) (keep : Nat → Bool)
    (h : ∀ i step, steps[i]? = some step → keep i = false → Catalogue.isObserver step.text)
    (s : Stage Browser) :
    c.runSteps d (pick keep steps) s =
      (pick keep (c.runSteps d steps s).1, (c.runSteps d steps s).2) := by
  induction steps generalizing keep s with
  | nil => rfl
  | cons step rest ih =>
    have hrest := ih (fun i => keep (i + 1)) fun i step hi hk => h (i + 1) step hi hk
    cases hkeep : keep 0 with
    | false =>
      obtain ⟨r, hr⟩ := runStep_of_observer hc (h 0 step rfl hkeep) d s
      rw [runSteps_cons_of_some (by rw [hr]), hr, pick, pick, hkeep]
      exact hrest s
    | true =>
      rw [pick, hkeep, if_pos rfl]
      cases hr : (c.runStep d step s).1 with
      | none =>
        rw [runSteps_cons_of_none hr, runSteps_cons_of_none hr, pick, hkeep, if_pos rfl, pick_map]
      | some r =>
        rw [runSteps_cons_of_some hr, runSteps_cons_of_some hr, pick, hkeep, if_pos rfl, hrest]

/-- A run without some of its observers: the other steps have the same records, and the browser,
what it reported, the clock and the last navigation end up the same. -/
theorem run_without_observers {c : Course} (hc : c.catalogue = Catalogue.standard)
    (steps : List Step) (keep : Nat → Bool)
    (h : ∀ i step, steps[i]? = some step → keep i = false → Catalogue.isObserver step.text)
    (s : Stage Browser) :
    c.run (pick keep steps) s = (pick keep (c.run steps s).1, (c.run steps s).2) :=
  runSteps_pick hc _ steps keep h s

/-- Without two checks there are two waits, the latter of which is cut short. -/
theorem run_without_observers_waits :
    let steps : List Step :=
      [⟨1, "wait 200", 1⟩, ⟨2, "check loadtime", 2⟩, ⟨3, "wait 300", 3⟩, ⟨4, "check console", 4⟩]
    let c : Course := ⟨Catalogue.standard, { Settings.standard with timeouts.run := 400 },
      CaptureLimits.standard, 0⟩
    let s : Stage Browser := ⟨Browser.start Site.empty, 0, none⟩
    let keep : Nat → Bool := fun i => i % 2 == 0
    (∀ i step, steps[i]? = some step → keep i = false → Catalogue.isObserver step.text) ∧
      (c.run steps s).1.map (·.status) = [.passed, .passed, .failed, .skipped] ∧
      (c.run [⟨1, "wait 200", 1⟩, ⟨3, "wait 300", 3⟩] s).1 = pick keep (c.run steps s).1 := by
  intro steps c s keep
  have htexts : ∀ p ∈ steps.zipIdx, keep p.2 = false → Catalogue.isObserver p.1.text := by
    decide +kernel
  have hobserve (i : Nat) (step : Step) (hi : steps[i]? = some step) (hk : keep i = false) :
      Catalogue.isObserver step.text :=
    htexts (step, i) (List.mk_mem_zipIdx_iff_getElem?.mpr hi) hk
  have hkept : pick keep steps = [⟨1, "wait 200", 1⟩, ⟨3, "wait 300", 3⟩] := rfl
  have hcut : (c.run steps s).1.map (·.status) = [.passed, .passed, .failed, .skipped] := by
    decide +kernel
  have h := run_without_observers (c := c) rfl steps keep hobserve s
  rw [hkept] at h
  refine ⟨hobserve, hcut, ?_⟩
  rw [h]

end Course

end Walkthrough
