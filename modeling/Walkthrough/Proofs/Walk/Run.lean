import Mathlib.Data.List.Forall2
import Walkthrough.Proofs.Walk.Action.Perform
import Walkthrough.Walk.Run

namespace Walkthrough

/-- The record of a step that failed because the run took too long. -/
def StepRecord.IsOverdue (r : StepRecord) : Prop :=
  r.status = .failed ∧ "timeout: run exceeded".toList <+: r.message.toList

instance : DecidablePred StepRecord.IsOverdue := fun r =>
  inferInstanceAs (Decidable (r.status = .failed ∧ _))

/-- A record of a step that came to an end by itself. -/
structure StepRecord.IsOf (r : StepRecord) (step : Step) : Prop where
  number : r.number = step.number
  line : r.line = step.text
  not_skipped : r.status ≠ .skipped
  not_overdue : ¬ r.IsOverdue

/-- No failure of a step by itself is told like a run that took too long. -/
theorem StepError.not_overdue (e : StepError) :
    ¬ "timeout: run exceeded".toList <+: e.toOutcome.message.toList := by
  intro h
  have htext : e.toOutcome.message.toList = e.kind.toList ++ ':' :: ' ' :: e.message.toList := by
    have hcolon : ": ".toList = [':', ' '] := String.toList_ofList
    unfold toOutcome
    rw [String.toList_append, String.toList_append, hcolon]
    simp
  rw [htext] at h
  cases e with
  | timeout text =>
    -- the kind is the same, so the texts differ behind it
    unfold kind message at h
    rw [String.toList_append] at h
    repeat rw [String.toList_ofList] at h
    simp [List.cons_prefix_cons] at h
  | _ =>
    unfold kind at h
    repeat rw [String.toList_ofList] at h
    simp [List.cons_prefix_cons] at h

theorem exists_of_mem_forall₂ {R : α → β → Prop} {as : List α} {bs : List β}
    (h : List.Forall₂ R as bs) {a : α} (ha : a ∈ as) : ∃ b ∈ bs, R a b := by
  induction h with
  | nil => contradiction
  | cons hab _ ih =>
    rcases List.mem_cons.mp ha with rfl | ha
    · exact ⟨_, List.mem_cons_self, hab⟩
    · obtain ⟨b, hb, hab⟩ := ih ha
      exact ⟨b, List.mem_cons_of_mem _ hb, hab⟩

theorem Effect.yields (e : Effect) (args : Arguments) (v : View) :
    Script.Yields Outcome.Regular (e.script args) v :=
  (e.keeps_eq args).yields v

namespace Course

variable [Host σ]

def procedure (c : Course) (s : Stage σ) (command : Command) (args : Arguments) :
    Procedure (Except StepError Outcome) :=
  command.effect.script args (c.view s)

theorem procedure_of_act {c : Course} {s : Stage σ} {command : Command} {action : Action}
    (h : command.effect = .act action) (args : Arguments) :
    c.procedure s command args = action.script args (c.view s) := by
  unfold procedure
  rw [h]
  rfl

theorem runStep_of_none {c : Course} {step : Step} (h : c.catalogue.find? step.text = none)
    (d : Option Nat) (s : Stage σ) :
    c.runStep d step s =
      (some ⟨step.number, step.text, none, .unknown, "no command matches this line", 0⟩, s) := by
  unfold runStep
  rw [h]

theorem runStep_of_some {c : Course} {step : Step} {command : Command} {args : Arguments}
    (h : c.catalogue.find? step.text = some (command, args)) (d : Option Nat) (s : Stage σ) :
    c.runStep d step s =
      (((c.procedure s command args).run d s).1.map fun r =>
        ⟨step.number, step.text, some command.name, (outcome r).status, (outcome r).message,
          ((c.procedure s command args).run d s).2.clock - s.clock⟩,
        ((c.procedure s command args).run d s).2) := by
  unfold runStep
  rw [h]
  rfl

theorem isOf_of_status {r : StepRecord} {step : Step} (hn : r.number = step.number)
    (hl : r.line = step.text) (hs : r.status ∈ [.passed, .warned, .acknowledged, .heading, .unknown]) :
    r.IsOf step := by
  refine ⟨hn, hl, fun h => ?_, fun h => ?_⟩
  · rw [h] at hs
    exact absurd hs (by decide)
  · rw [h.1] at hs
    exact absurd hs (by decide)

/-- How a record of a step comes about: no command matches the line, or its command ends with a
regular outcome, or it fails. -/
theorem runStep_cases {c : Course} {d : Option Nat} {step : Step} {s : Stage σ} {r : StepRecord}
    (h : (c.runStep d step s).1 = some r) :
    (c.catalogue.find? step.text = none ∧
      r = ⟨step.number, step.text, none, .unknown, "no command matches this line", 0⟩) ∨
    ∃ command args latency, c.catalogue.find? step.text = some (command, args) ∧
      ((∃ o, ((c.procedure s command args).run d s).1 = some (.ok o) ∧ o.Regular ∧
          r = ⟨step.number, step.text, some command.name, o.status, o.message, latency⟩) ∨
        ∃ e, ((c.procedure s command args).run d s).1 = some (.error e) ∧
          r = ⟨step.number, step.text, some command.name, .failed, e.toOutcome.message,
            latency⟩) := by
  cases hfind : c.catalogue.find? step.text with
  | none =>
    rw [runStep_of_none hfind] at h
    exact .inl ⟨rfl, (Option.some.inj h).symm⟩
  | some found =>
    rw [runStep_of_some hfind] at h
    obtain ⟨result, hresult, rfl⟩ := Option.map_eq_some_iff.mp h
    have hyields := (found.1.effect.yields found.2 (c.view s)).of_run hresult
    cases result with
    | ok o => exact .inr ⟨found.1, found.2, _, rfl, .inl ⟨o, hresult, hyields, rfl⟩⟩
    | error e => exact .inr ⟨found.1, found.2, _, rfl, .inr ⟨e, hresult, rfl⟩⟩

theorem isOf_runStep {c : Course} {d : Option Nat} {step : Step} {s : Stage σ} {r : StepRecord}
    (h : (c.runStep d step s).1 = some r) : r.IsOf step := by
  obtain ⟨-, rfl⟩ | ⟨command, args, latency, -, hends⟩ := runStep_cases h
  · exact isOf_of_status rfl rfl (by simp)
  · obtain ⟨o, -, hregular, rfl⟩ | ⟨e, -, rfl⟩ := hends
    · exact isOf_of_status rfl rfl (List.mem_append_left [StepStatus.unknown] hregular)
    · exact ⟨rfl, rfl, nofun, fun h => e.not_overdue h.2⟩

theorem of_runStep {c : Course} {step : Step} {P : Stage σ → Prop} (d : Option Nat) {s : Stage σ}
    (hstay : P s) (hact : ∀ command args, c.catalogue.find? step.text = some (command, args) →
      P ((c.procedure s command args).run d s).2) : P (c.runStep d step s).2 := by
  cases hfind : c.catalogue.find? step.text with
  | none =>
    rw [runStep_of_none hfind]
    exact hstay
  | some found =>
    rw [runStep_of_some hfind]
    exact hact found.1 found.2 hfind

/-- Where a line has the same command on two courses, which does the same, its step goes the same
way. -/
theorem runStep_congr (c c' : Course) {step : Step} {s : Stage σ}
    (hfind : c'.catalogue.find? step.text = c.catalogue.find? step.text)
    (hsame : ∀ command args, c.catalogue.find? step.text = some (command, args) →
      c'.procedure s command args = c.procedure s command args) (d : Option Nat) :
    c'.runStep d step s = c.runStep d step s := by
  cases hfound : c.catalogue.find? step.text with
  | none => rw [runStep_of_none hfound, runStep_of_none (hfind.trans hfound)]
  | some found =>
    rw [runStep_of_some hfound, runStep_of_some (hfind.trans hfound), hsame _ _ hfound]

theorem clock_runStep (c : Course) {limit : Nat} (step : Step) {s : Stage σ} (h : s.clock ≤ limit) :
    s.clock ≤ (c.runStep (some limit) step s).2.clock ∧
      (c.runStep (some limit) step s).2.clock ≤ limit :=
  of_runStep (P := fun t => s.clock ≤ t.clock ∧ t.clock ≤ limit) _ ⟨Nat.le_refl _, h⟩
    fun _ _ _ => Procedure.clock_run _ h

theorem runSteps_cons_of_some {c : Course} {d : Option Nat} {step : Step} {s : Stage σ}
    {r : StepRecord} (h : (c.runStep d step s).1 = some r) (rest : List Step) :
    c.runSteps d (step :: rest) s =
      (r :: (c.runSteps d rest (c.runStep d step s).2).1,
        (c.runSteps d rest (c.runStep d step s).2).2) := by
  conv_lhs => unfold runSteps
  cases hstep : c.runStep d step s with
  | mk record after =>
    rw [hstep] at h
    obtain rfl : record = some r := h
    rfl

theorem runSteps_cons_of_none {c : Course} {d : Option Nat} {step : Step} {s : Stage σ}
    (h : (c.runStep d step s).1 = none) (rest : List Step) :
    c.runSteps d (step :: rest) s =
      (c.overdue step :: rest.map skipped, (c.runStep d step s).2) := by
  unfold runSteps
  cases hstep : c.runStep d step s with
  | mk record after =>
    rw [hstep] at h
    obtain rfl : record = none := h
    rfl

theorem overdue_isOverdue (c : Course) (step : Step) : (c.overdue step).IsOverdue := by
  refine ⟨rfl, ?_⟩
  unfold overdue
  dsimp only
  rw [String.toList_append, String.toList_append]
  repeat rw [String.toList_ofList]
  simp [List.cons_prefix_cons]

theorem skipped_not_overdue (step : Step) : ¬ (skipped step).IsOverdue :=
  fun h => nomatch h.1

/-- What holds where a run starts, and what no step of it breaks, holds where it ends. -/
theorem of_runSteps {c : Course} {steps : List Step} {P : Stage σ → Prop} (d : Option Nat)
    {s : Stage σ} (h : P s) (hstep : ∀ step ∈ steps, ∀ t, P t → P (c.runStep d step t).2) :
    P (c.runSteps d steps s).2 := by
  induction steps generalizing s with
  | nil => exact h
  | cons step rest ih =>
    obtain ⟨hfirst, hlater⟩ := List.forall_mem_cons.mp hstep
    cases hr : (c.runStep d step s).1 with
    | none =>
      rw [runSteps_cons_of_none hr]
      exact hfirst s h
    | some r =>
      rw [runSteps_cons_of_some hr]
      exact ih (hfirst s h) hlater

theorem clock_runSteps (c : Course) {limit : Nat} (steps : List Step) {s : Stage σ}
    (h : s.clock ≤ limit) :
    s.clock ≤ (c.runSteps (some limit) steps s).2.clock ∧
      (c.runSteps (some limit) steps s).2.clock ≤ limit := by
  refine of_runSteps (P := fun t => s.clock ≤ t.clock ∧ t.clock ≤ limit) _ ⟨Nat.le_refl _, h⟩
    fun step _ t ht => ?_
  obtain ⟨hfrom, hto⟩ := c.clock_runStep step ht.2
  exact ⟨Nat.le_trans ht.1 hfrom, hto⟩

/-- What holds of the record of each step, whether it comes to an end or is cut short or skipped. -/
theorem forall₂_runSteps {c : Course} {R : Step → StepRecord → Prop} (d : Option Nat)
    (hends : ∀ step (s : Stage σ) r, (c.runStep d step s).1 = some r → R step r)
    (hcut : ∀ step (s : Stage σ), (c.runStep d step s).1 = none → R step (c.overdue step))
    (hskipped : ∀ step, R step (skipped step)) (steps : List Step) (s : Stage σ) :
    List.Forall₂ R steps (c.runSteps d steps s).1 := by
  induction steps generalizing s with
  | nil => exact .nil
  | cons step rest ih =>
    cases hr : (c.runStep d step s).1 with
    | none =>
      rw [runSteps_cons_of_none hr]
      refine .cons (hcut step s hr) ?_
      rw [List.forall₂_map_right_iff, List.forall₂_same]
      exact fun late _ => hskipped late
    | some r =>
      rw [runSteps_cons_of_some hr]
      exact .cons (hends step s r hr) (ih _)

theorem runSteps_congr {c c' : Course} {d : Option Nat} {steps : List Step}
    (hstep : ∀ step ∈ steps, ∀ s : Stage σ, c'.runStep d step s = c.runStep d step s)
    (hcut : ∀ step ∈ steps, c'.overdue step = c.overdue step) (s : Stage σ) :
    c'.runSteps d steps s = c.runSteps d steps s := by
  induction steps generalizing s with
  | nil => rfl
  | cons step rest ih =>
    obtain ⟨hfirst, hlater⟩ := List.forall_mem_cons.mp hstep
    obtain ⟨hoverdue, hrest⟩ := List.forall_mem_cons.mp hcut
    cases hr : (c.runStep d step s).1 with
    | none =>
      rw [runSteps_cons_of_none hr, runSteps_cons_of_none (by rw [hfirst, hr]), hfirst, hoverdue]
    | some r =>
      rw [runSteps_cons_of_some hr, runSteps_cons_of_some (by rw [hfirst, hr]), hfirst,
        ih hlater hrest]

end Course

end Walkthrough
