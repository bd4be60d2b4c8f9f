import Mathlib.Data.List.Forall2
import Walkthrough.Coverage
import Walkthrough.Proofs.Command.Catalogue
import Walkthrough.Proofs.Walk.Run

namespace Walkthrough

namespace Catalogue

/-- Nothing is done for the line: no command matches it, or it is a heading or noted. -/
def IsIdle (catalogue : Catalogue) (line : String) : Prop :=
  ∀ command args, catalogue.find? line = some (command, args) →
    ∀ action, command.effect ≠ .act action

def entry (catalogue : Catalogue) (step : Step) : CoverageEntry :=
  ⟨step.number, step.text, catalogue.knows step.text⟩

theorem ofSteps_eq_map_entry (catalogue : Catalogue) (steps : List Step) :
    Coverage.ofSteps catalogue steps = steps.map catalogue.entry := rfl

end Catalogue

/-- What the record of a step owes to the entry for it in the coverage. -/
structure CoverageEntry.Agrees (catalogue : Catalogue) (e : CoverageEntry) (r : StepRecord) :
    Prop where
  number : r.number = e.number
  line : r.line = e.text
  unknown : e.known = false ↔
    r.status = .unknown ∨ r.status = .skipped ∧ catalogue.find? r.line = none
  command : r.status ≠ .skipped → (r.command = none ↔ e.known = false)
  idle : catalogue.IsIdle r.line → r.status ≠ .failed
  known : e.known = true → r.status ≠ .unknown

theorem Outcome.Regular.status_ne {o : Outcome} (h : o.Regular) {status : StepStatus}
    (hs : status ∉ [.passed, .warned, .acknowledged, .heading]) : o.status ≠ status :=
  fun he => hs (he ▸ h)

theorem Effect.script_of_idle {e : Effect} (h : ∀ action, e ≠ .act action) (args : Arguments)
    (v : View) : ∃ o : Outcome, o.Regular ∧ e.script args v = Procedure.done (.ok o) := by
  cases e with
  | act action => exact absurd rfl (h action)
  | note category => exact ⟨_, by simp [Outcome.Regular], rfl⟩
  | heading => exact ⟨_, by simp [Outcome.Regular], rfl⟩

namespace Course

variable [Host σ] {c : Course} {step : Step}

theorem agrees_of_unmatched (h : c.catalogue.find? step.text = none) {r : StepRecord}
    (hn : r.number = step.number) (hl : r.line = step.text) (hs : r.status = .unknown)
    (hc : r.command = none) : (c.catalogue.entry step).Agrees c.catalogue r := by
  have hknown : (c.catalogue.entry step).known = false := Catalogue.knows_eq_false_iff.mpr h
  refine ⟨hn, hl, ?_, ?_, ?_, ?_⟩
  · exact ⟨fun _ => .inl hs, fun _ => hknown⟩
  · exact fun _ => ⟨fun _ => hknown, fun _ => hc⟩
  · intro _
    rw [hs]
    nofun
  · intro hk
    rw [hknown] at hk
    contradiction

theorem agrees_of_matched {command : Command} {args : Arguments}
    (h : c.catalogue.find? step.text = some (command, args)) {r : StepRecord}
    (hn : r.number = step.number) (hl : r.line = step.text) (hc : r.command = some command.name)
    (hunknown : r.status ≠ .unknown) (hskipped : r.status ≠ .skipped)
    (hidle : (∀ action, command.effect ≠ .act action) → r.status ≠ .failed) :
    (c.catalogue.entry step).Agrees c.catalogue r := by
  have hknown : ¬ (c.catalogue.entry step).known = false := by
    intro hf
    rw [Catalogue.knows_eq_false_iff.mp hf] at h
    contradiction
  refine ⟨hn, hl, ?_, ?_, ?_, fun _ => hunknown⟩
  · constructor
    · exact fun hf => absurd hf hknown
    · rintro (hs | ⟨hs, -⟩)
      · exact absurd hs hunknown
      · exact absurd hs hskipped
  · intro _
    rw [hc]
    exact ⟨nofun, fun hf => absurd hf hknown⟩
  · intro hi
    rw [hl] at hi
    exact hidle (hi command args h)

theorem agrees_runStep {d : Option Nat} {s : Stage σ} {r : StepRecord}
    (h : (c.runStep d step s).1 = some r) : (c.catalogue.entry step).Agrees c.catalogue r := by
  obtain ⟨hfind, rfl⟩ | ⟨command, args, latency, hfind, hends⟩ := runStep_cases h
  · exact agrees_of_unmatched hfind rfl rfl rfl rfl
  · obtain ⟨o, -, hregular, rfl⟩ | ⟨e, hresult, rfl⟩ := hends
    · exact agrees_of_matched hfind rfl rfl rfl (hregular.status_ne (by decide))
        (hregular.status_ne (by decide)) fun _ => hregular.status_ne (by decide)
    · refine agrees_of_matched hfind rfl rfl rfl nofun nofun fun hidle => ?_
      obtain ⟨o, -, hdone⟩ := Effect.script_of_idle hidle args (c.view s)
      unfold procedure at hresult
      rw [hdone] at hresult
      exact nomatch Option.some.inj hresult

/-- A heading or a note waits for nothing, so only an action can be cut short. -/
theorem matched_of_cut {d : Option Nat} {s : Stage σ} (h : (c.runStep d step s).1 = none) :
    ∃ command args action,
      c.catalogue.find? step.text = some (command, args) ∧ command.effect = .act action := by
  cases hfind : c.catalogue.find? step.text with
  | none =>
    rw [runStep_of_none hfind] at h
    contradiction
  | some found =>
    refine ⟨found.1, found.2, ?_⟩
    by_contra hno
    obtain ⟨o, -, hdone⟩ := Effect.script_of_idle
      (fun action he => hno ⟨action, rfl, he⟩) found.2 (c.view s)
    rw [runStep_of_some hfind] at h
    unfold procedure at h
    rw [hdone] at h
    contradiction

theorem agrees_overdue {d : Option Nat} {s : Stage σ} (h : (c.runStep d step s).1 = none) :
    (c.catalogue.entry step).Agrees c.catalogue (c.overdue step) := by
  obtain ⟨command, args, action, hfind, heffect⟩ := matched_of_cut h
  have hname : (c.overdue step).command = some command.name := by
    unfold overdue commandName?
    rw [hfind]
    rfl
  exact agrees_of_matched hfind rfl rfl hname nofun nofun fun hidle => absurd heffect (hidle action)

theorem agrees_skipped (catalogue : Catalogue) (step : Step) :
    (catalogue.entry step).Agrees catalogue (skipped step) where
  number := rfl
  line := rfl
  unknown := by
    constructor
    · exact fun hf => .inr ⟨rfl, Catalogue.knows_eq_false_iff.mp hf⟩
    · rintro (hs | ⟨-, hfind⟩)
      · contradiction
      · exact Catalogue.knows_eq_false_iff.mpr hfind
  command := fun hs => absurd rfl hs
  idle := fun _ => nofun
  known := fun _ => nofun

theorem agrees_runSteps (c : Course) (d : Option Nat) (steps : List Step) (s : Stage σ) :
    List.Forall₂ (CoverageEntry.Agrees c.catalogue) (steps.map c.catalogue.entry)
      (c.runSteps d steps s).1 := by
  rw [List.forall₂_map_left_iff]
  exact forall₂_runSteps d (fun _ _ _ => agrees_runStep) (fun _ _ => agrees_overdue)
    (agrees_skipped c.catalogue) steps s

/-- The records of a run and the coverage of its steps agree, entry by entry, whatever the session
answers and whenever the deadline is, be it already over. -/
theorem records_agree_with_coverage (c : Course) (steps : List Step) (s : Stage σ) :
    List.Forall₂ (CoverageEntry.Agrees c.catalogue) (Coverage.ofSteps c.catalogue steps)
        (c.run steps s).1 ∧
      ∀ deadline, List.Forall₂ (CoverageEntry.Agrees c.catalogue)
        (Coverage.ofSteps c.catalogue steps) (c.runSteps deadline steps s).1 := by
  rw [Catalogue.ofSteps_eq_map_entry]
  exact ⟨c.agrees_runSteps _ steps s, fun deadline => c.agrees_runSteps deadline steps s⟩

end Course

end Walkthrough
