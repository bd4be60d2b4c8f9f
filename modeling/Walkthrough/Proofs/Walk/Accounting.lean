import Mathlib.Data.List.Forall2
import Walkthrough.Proofs.Walk.Run
import Walkthrough.Walk.Report

namespace Walkthrough

theorem StatusCounts.ofRecords_sum (records : List StepRecord) :
    (ofRecords records).total =
      (ofRecords records).passed + (ofRecords records).warned + (ofRecords records).acknowledged +
        (ofRecords records).heading + (ofRecords records).unknown + (ofRecords records).failed +
        (ofRecords records).skipped := by
  unfold ofRecords
  induction records with
  | nil => rfl
  | cons r records ih =>
    dsimp only at ih ⊢
    simp only [List.length_cons, List.countP_cons]
    cases r.status <;> simp <;> omega

theorem Report.isSuccess_iff (source : String) (startedAt finishedAt : Timestamp)
    (records : List StepRecord) :
    (finished source startedAt finishedAt records).isSuccess ↔
      (finished source startedAt finishedAt records).counts.failed = 0 := by
  unfold isSuccess failures finished StatusCounts.ofRecords
  simp [List.countP_eq_length_filter]

namespace Course

variable [Host σ]

theorem order_of_isOf {records : List StepRecord} {steps : List Step}
    (h : List.Forall₂ StepRecord.IsOf records steps) :
    records.map (fun r => (r.number, r.line)) = steps.map fun step => (step.number, step.text) := by
  induction h with
  | nil => rfl
  | cons hr _ ih => rw [List.map_cons, List.map_cons, hr.number, hr.line, ih]

/-- The steps that come to an end by themselves, and what is left: nothing, or the step that the
deadline cuts short and those that are skipped for it. -/
theorem runSteps_shape (c : Course) (limit : Nat) (steps : List Step) (s : Stage σ) :
    List.Forall₂ StepRecord.IsOf (c.runSteps (some limit) steps s).1 steps ∨
      ∃ records before step rest, steps = before ++ step :: rest ∧
        List.Forall₂ StepRecord.IsOf records before ∧
        (c.runSteps (some limit) steps s).1 = records ++ c.overdue step :: rest.map skipped ∧
        (c.runSteps (some limit) (before ++ [step]) s).2 = (c.runSteps (some limit) steps s).2 := by
  induction steps generalizing s with
  | nil => exact .inl .nil
  | cons step rest ih =>
    cases hr : (c.runStep (some limit) step s).1 with
    | none =>
      refine .inr ⟨[], [], step, rest, rfl, .nil, ?_, ?_⟩
      · rw [runSteps_cons_of_none hr, List.nil_append]
      · rw [List.nil_append, runSteps_cons_of_none hr, runSteps_cons_of_none hr]
    | some r =>
      rw [runSteps_cons_of_some hr]
      rcases ih (c.runStep (some limit) step s).2 with h | ⟨records, before, cut, late, rfl, hof, h⟩
      · exact .inl (.cons (isOf_runStep hr) h)
      · refine .inr ⟨r :: records, step :: before, cut, late, rfl, .cons (isOf_runStep hr) hof, ?_, ?_⟩
        · rw [h.1, List.cons_append]
        · rw [List.cons_append, runSteps_cons_of_some hr]
          exact h.2

theorem run_in_order (c : Course) (steps : List Step) (s : Stage σ) :
    (c.run steps s).1.map (fun r => (r.number, r.line)) =
      steps.map fun step => (step.number, step.text) := by
  unfold run
  rcases c.runSteps_shape _ steps s with h | ⟨records, before, step, rest, rfl, hof, h, -⟩
  · exact order_of_isOf h
  · rw [h, List.map_append, List.map_append, order_of_isOf hof, List.map_cons, List.map_cons,
      List.map_map]
    rfl

theorem run_cut (c : Course) (steps : List Step) (s : Stage σ) :
    ∃ ran left, (c.run steps s).1 = ran ++ left ∧ (∀ r ∈ ran, r.status ≠ .skipped) ∧
      (∀ r ∈ left, r.status = .skipped ∧ r.command = none) ∧
      (left ≠ [] → ∃ r, ran.getLast? = some r ∧ r.IsOverdue) ∧
      (c.run (steps.take ran.length) s).2 = (c.run steps s).2 := by
  unfold run
  rcases c.runSteps_shape _ steps s with h | ⟨records, before, step, rest, rfl, hof, h, hlast⟩
  · refine ⟨_, [], (List.append_nil _).symm, fun r hr => ?_, nofun, fun hne => absurd rfl hne, ?_⟩
    · obtain ⟨step, -, hof⟩ := exists_of_mem_forall₂ h hr
      exact hof.not_skipped
    · rw [h.length_eq, List.take_length]
  · refine ⟨records ++ [c.overdue step], rest.map skipped, by rw [h]; simp, fun r hr => ?_,
      fun r hr => ?_, fun _ => ⟨c.overdue step, by simp, c.overdue_isOverdue step⟩, ?_⟩
    · rcases List.mem_append.mp hr with hr | hr
      · obtain ⟨step, -, hof⟩ := exists_of_mem_forall₂ hof hr
        exact hof.not_skipped
      · obtain rfl := List.mem_singleton.mp hr
        nofun
    · obtain ⟨step, -, rfl⟩ := List.mem_map.mp hr
      exact ⟨rfl, rfl⟩
    · have htake : (before ++ step :: rest).take (records ++ [c.overdue step]).length =
          before ++ [step] := by
        rw [show before ++ step :: rest = before ++ [step] ++ rest by simp]
        exact List.take_left' (by simp [hof.length_eq])
      rw [htake, hlast]

theorem run_overdue_once (c : Course) (steps : List Step) (s : Stage σ) :
    (c.run steps s).1.countP (·.IsOverdue) ≤ 1 := by
  have hnone {records : List StepRecord} {steps : List Step}
      (h : List.Forall₂ StepRecord.IsOf records steps) : records.countP (·.IsOverdue) = 0 := by
    apply List.countP_eq_zero.mpr
    intro r hr
    obtain ⟨step, -, hof⟩ := exists_of_mem_forall₂ h hr
    simpa using hof.not_overdue
  unfold run
  rcases c.runSteps_shape _ steps s with h | ⟨records, before, step, rest, rfl, hof, h, -⟩
  · rw [hnone h]
    exact Nat.zero_le 1
  · have hskipped : (rest.map skipped).countP (·.IsOverdue) = 0 := by
      apply List.countP_eq_zero.mpr
      intro r hr
      obtain ⟨step, -, rfl⟩ := List.mem_map.mp hr
      simpa using skipped_not_overdue step
    rw [h, List.countP_append, List.countP_cons, hnone hof, hskipped]
    split <;> simp

/-- What a report owes to a run of `steps` from `s` that ends in `last`. -/
structure Accounts (c : Course) (steps : List Step) (s last : Stage σ) (report : Report) : Prop where
  in_order : report.steps.map (fun r => (r.number, r.line)) =
    steps.map fun step => (step.number, step.text)
  total : report.counts.total = steps.length
  sum : report.counts.total =
    report.counts.passed + report.counts.warned + report.counts.acknowledged +
      report.counts.heading + report.counts.unknown + report.counts.failed + report.counts.skipped
  /-- Nothing is done for a step that is skipped: the run ends as without it. -/
  cut : ∃ ran left, report.steps = ran ++ left ∧ (∀ r ∈ ran, r.status ≠ .skipped) ∧
    (∀ r ∈ left, r.status = .skipped ∧ r.command = none) ∧
    (left ≠ [] → ∃ r, ran.getLast? = some r ∧ r.IsOverdue) ∧
    (c.run (steps.take ran.length) s).2 = last
  overdue_once : report.steps.countP (·.IsOverdue) ≤ 1
  elapsed : s.clock ≤ last.clock ∧ last.clock ≤ s.clock + c.settings.timeouts.run
  success : report.isSuccess ↔ report.counts.failed = 0
  no_success : (∃ r ∈ report.steps, r.status = .skipped) → ¬ report.isSuccess

theorem run_accounts (c : Course) (steps : List Step) (s : Stage σ) (source : String)
    (startedAt finishedAt : Timestamp) :
    c.Accounts steps s (c.run steps s).2
      (Report.finished source startedAt finishedAt (c.run steps s).1) where
  in_order := c.run_in_order steps s
  total := by
    have horder := congrArg List.length (c.run_in_order steps s)
    rwa [List.length_map, List.length_map] at horder
  sum := StatusCounts.ofRecords_sum _
  cut := c.run_cut steps s
  overdue_once := c.run_overdue_once steps s
  elapsed := c.clock_runSteps steps (Nat.le_add_right _ _)
  success := Report.isSuccess_iff source startedAt finishedAt _
  no_success := by
    rintro ⟨r, hr, hskipped⟩ hsuccess
    obtain ⟨ran, left, hrecords, hran, hleft, hcut, -⟩ := c.run_cut steps s
    have hr : r ∈ ran ++ left := hrecords ▸ hr
    have hmem : r ∈ left := (List.mem_append.mp hr).resolve_left fun h => hran r h hskipped
    obtain ⟨cut, hover, hfailed, -⟩ := hcut (List.ne_nil_of_mem hmem)
    have hover : cut ∈ (c.run steps s).1 :=
      hrecords ▸ List.mem_append_left _ (List.mem_of_getLast? hover)
    rw [Report.isSuccess_iff] at hsuccess
    exact absurd hfailed (by simpa using List.countP_eq_zero.mp hsuccess cut hover)

end Course

end Walkthrough
