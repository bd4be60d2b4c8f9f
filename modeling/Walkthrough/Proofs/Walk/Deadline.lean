import Mathlib.Data.List.Basic
import Walkthrough.Command.Standard
import Walkthrough.Proofs.Browser.Effects
import Walkthrough.Proofs.Walk.Run

namespace Walkthrough

/-- Whatever was done and reported in one state of a browser is at the start of what was done and
reported in another. -/
structure Browser.Precedes (b b' : Browser) : Prop where
  journal : b.journal <+: b'.journal
  events : b.events <+: b'.events

namespace Browser

theorem Precedes.refl (b : Browser) : b.Precedes b :=
  ⟨List.prefix_refl _, List.prefix_refl _⟩

theorem Precedes.trans {b b' b'' : Browser} (h : b.Precedes b') (h' : b'.Precedes b'') :
    b.Precedes b'' :=
  ⟨h.journal.trans h'.journal, h.events.trans h'.events⟩

theorem precedes_respond (b : Browser) (c : Call) : b.Precedes (b.respond c).2 where
  journal := by
    cases hanswer : (b.respond c).1 with
    | error e => simp only [(b.settled_respond c).eq_of_error hanswer, List.prefix_refl]
    | ok a =>
      rw [(b.settled_respond c).journal_of_ok hanswer]
      exact List.prefix_append _ _
  events := by
    rw [(b.follows_respond c).events]
    exact List.prefix_append _ _

end Browser

namespace Procedure

theorem precedes_run (d : Option Nat) (p : Procedure α) (s : Stage Browser) :
    s.host.Precedes (p.run d s).2.host := by
  induction p generalizing s with
  | done a => exact .refl _
  | call c next ih =>
    exact (s.host.precedes_respond c).trans (ih _ { s with host := (Host.respond c s.host).2 })
  | pause ms next ih =>
    unfold run
    split
    · exact ih { s with clock := s.clock + ms }
    · split
      · exact .refl _
      · exact ih { s with clock := s.clock + ms }
  | record v next ih => exact ih { s with last := some v }

/-- An earlier deadline changes nothing about a procedure, or it cuts it short. -/
theorem run_of_le {early late : Nat} (h : early ≤ late) (p : Procedure α) (s : Stage Browser) :
    p.run (some early) s = p.run (some late) s ∨
      (p.run (some early) s).1 = none ∧
        (p.run (some early) s).2.host.Precedes (p.run (some late) s).2.host := by
  induction p generalizing s with
  | done a => exact .inl rfl
  | call c next ih => exact ih _ { s with host := (Host.respond c s.host).2 }
  | pause ms next ih =>
    rcases Nat.lt_or_ge early (s.clock + ms) with hcut | hgo
    · rw [run_pause_of_lt hcut]
      exact .inr ⟨rfl, precedes_run _ (pause ms next) s⟩
    · rw [run_pause_of_le hgo, run_pause_of_le (Nat.le_trans hgo h)]
      exact ih { s with clock := s.clock + ms }
  | record v next ih => exact ih { s with last := some v }

end Procedure

namespace Course

def withRunLimit (c : Course) (limit : Nat) : Course :=
  { c with settings.timeouts.run := limit }

theorem procedure_withRunLimit [Host σ] (c : Course) (limit : Nat) (s : Stage σ) (command : Command)
    (args : Arguments) :
    (c.withRunLimit limit).procedure s command args = c.procedure s command args := by
  have halike : View.Alike Eq ((c.withRunLimit limit).view s) (c.view s) :=
    ⟨rfl, rfl, rfl, rfl, rfl, rfl, rfl, rfl, rfl⟩
  exact (command.effect.keeps_eq args).eq_of_alike halike

theorem runStep_withRunLimit [Host σ] (c : Course) (limit : Nat) (d : Option Nat) (step : Step)
    (s : Stage σ) : (c.withRunLimit limit).runStep d step s = c.runStep d step s :=
  runStep_congr c (c.withRunLimit limit) rfl
    (fun command args _ => c.procedure_withRunLimit limit s command args) d

theorem runStep_of_le (c : Course) {early late : Nat} (h : early ≤ late) (d₁ d₂ : Nat) (step : Step)
    (s : Stage Browser) :
    (c.withRunLimit d₁).runStep (some early) step s =
        (c.withRunLimit d₂).runStep (some late) step s ∨
      ((c.withRunLimit d₁).runStep (some early) step s).1 = none ∧
        ((c.withRunLimit d₁).runStep (some early) step s).2.host.Precedes
          ((c.withRunLimit d₂).runStep (some late) step s).2.host := by
  rw [runStep_withRunLimit, runStep_withRunLimit]
  cases hfind : c.catalogue.find? step.text with
  | none =>
    rw [runStep_of_none hfind, runStep_of_none hfind]
    exact .inl rfl
  | some found =>
    rw [runStep_of_some hfind, runStep_of_some hfind]
    rcases (c.procedure s found.1 found.2).run_of_le h s with heq | ⟨hnone, hbefore⟩
    · rw [heq]
      exact .inl rfl
    · rw [hnone]
      exact .inr ⟨rfl, hbefore⟩

theorem precedes_runStep (c : Course) (d : Option Nat) (step : Step) (s : Stage Browser) :
    s.host.Precedes (c.runStep d step s).2.host :=
  of_runStep (P := fun t => s.host.Precedes t.host) d (.refl _) fun _ _ _ =>
    Procedure.precedes_run d _ s

theorem precedes_runSteps (c : Course) (d : Option Nat) (steps : List Step) (s : Stage Browser) :
    s.host.Precedes (c.runSteps d steps s).2.host :=
  of_runSteps (P := fun t => s.host.Precedes t.host) d (.refl _) fun step _ t ht =>
    ht.trans (c.precedes_runStep d step t)

theorem precedes_runSteps_cons (c : Course) (d : Option Nat) (step : Step) (rest : List Step)
    (s : Stage Browser) :
    (c.runStep d step s).2.host.Precedes (c.runSteps d (step :: rest) s).2.host := by
  cases hr : (c.runStep d step s).1 with
  | none =>
    rw [runSteps_cons_of_none hr]
    exact .refl _
  | some r =>
    rw [runSteps_cons_of_some hr]
    exact c.precedes_runSteps d rest _

/-- Under an earlier deadline a run goes the same way, up to its end or up to a step that is cut
short there. -/
theorem runSteps_of_le (c : Course) {early late : Nat} (h : early ≤ late) (d₁ d₂ : Nat)
    (steps : List Step) (s : Stage Browser) :
    (c.withRunLimit d₁).runSteps (some early) steps s =
        (c.withRunLimit d₂).runSteps (some late) steps s ∨
      ∃ (records later : List StepRecord) (step : Step) (rest : List Step),
        ((c.withRunLimit d₁).runSteps (some early) steps s).1 =
          records ++ (c.withRunLimit d₁).overdue step :: rest.map skipped ∧
        ((c.withRunLimit d₂).runSteps (some late) steps s).1 = records ++ later ∧
        (∀ r ∈ records, ¬ r.IsOverdue) ∧
        ((c.withRunLimit d₁).runSteps (some early) steps s).2.host.Precedes
          ((c.withRunLimit d₂).runSteps (some late) steps s).2.host := by
  induction steps generalizing s with
  | nil => exact .inl rfl
  | cons step rest ih =>
    have hstep := c.runStep_of_le h d₁ d₂ step s
    have hlate := (c.withRunLimit d₂).precedes_runSteps_cons (some late) step rest s
    cases hr : ((c.withRunLimit d₁).runStep (some early) step s).1 with
    | none =>
      refine .inr ⟨[], _, step, rest, ?_, (List.nil_append _).symm, nofun, ?_⟩
      · rw [runSteps_cons_of_none hr, List.nil_append]
      · rw [runSteps_cons_of_none hr]
        rcases hstep with heq | ⟨-, hbefore⟩
        · exact heq ▸ hlate
        · exact hbefore.trans hlate
    | some r =>
      have heq := hstep.resolve_right fun hcut => nomatch hr.symm.trans hcut.1
      have hr' : ((c.withRunLimit d₂).runStep (some late) step s).1 = some r := heq ▸ hr
      rw [runSteps_cons_of_some hr, runSteps_cons_of_some hr', heq]
      rcases ih ((c.withRunLimit d₂).runStep (some late) step s).2 with
        heq | ⟨records, later, cut, skips, hearly, hlater, hrecords, hbefore⟩
      · rw [heq]
        exact .inl rfl
      · refine .inr ⟨r :: records, later, cut, skips, ?_, ?_, ?_, hbefore⟩
        · rw [hearly, List.cons_append]
        · rw [hlater, List.cons_append]
        · exact List.forall_mem_cons.mpr ⟨(isOf_runStep hr).not_overdue, hrecords⟩

theorem eq_length_of_isOverdue {records : List StepRecord} (hrecords : ∀ r ∈ records, ¬ r.IsOverdue)
    {cut : StepRecord} {rest : List Step} {k : Nat} {r : StepRecord}
    (hk : (records ++ cut :: rest.map skipped)[k]? = some r) (hr : r.IsOverdue) :
    k = records.length := by
  rcases Nat.lt_trichotomy k records.length with hlt | heq | hgt
  · rw [List.getElem?_append_left hlt] at hk
    exact absurd hr (hrecords r (List.mem_of_getElem? hk))
  · exact heq
  · obtain ⟨j, hj⟩ : ∃ j, k - records.length = j + 1 := ⟨k - records.length - 1, by omega⟩
    rw [List.getElem?_append_right (Nat.le_of_lt hgt), hj, List.getElem?_cons_succ] at hk
    obtain ⟨step, -, rfl⟩ := List.mem_map.mp (List.mem_of_getElem? hk)
    exact absurd hr (skipped_not_overdue step)

/-- A deadline only takes away the end of a run: what is done and reported under an earlier one is
the start of what is done and reported under a later one, and so are the records before the step
that is cut short. -/
theorem run_deadline_truncates (c : Course) {d₁ d₂ : Nat} (h : d₁ ≤ d₂) (steps : List Step)
    (s : Stage Browser) :
    ((c.withRunLimit d₁).run steps s).2.host.journal <+:
        ((c.withRunLimit d₂).run steps s).2.host.journal ∧
      ((c.withRunLimit d₁).run steps s).2.host.events <+:
        ((c.withRunLimit d₂).run steps s).2.host.events ∧
      (∀ k r, ((c.withRunLimit d₁).run steps s).1[k]? = some r → r.IsOverdue →
        ((c.withRunLimit d₁).run steps s).1.take k = ((c.withRunLimit d₂).run steps s).1.take k) ∧
      ((∀ r ∈ ((c.withRunLimit d₁).run steps s).1, ¬ r.IsOverdue) →
        ((c.withRunLimit d₁).run steps s).1 = ((c.withRunLimit d₂).run steps s).1) := by
  have hrun (d : Nat) : (c.withRunLimit d).run steps s =
      (c.withRunLimit d).runSteps (some (s.clock + d)) steps s := rfl
  rw [hrun, hrun]
  rcases c.runSteps_of_le (Nat.add_le_add_left h s.clock) d₁ d₂ steps s with
    heq | ⟨records, later, step, rest, hearly, hlate, hrecords, hbefore⟩
  · rw [heq]
    exact ⟨List.prefix_refl _, List.prefix_refl _, fun _ _ _ _ => rfl, fun _ => rfl⟩
  · refine ⟨hbefore.journal, hbefore.events, fun k r hk hr => ?_, fun hnone => ?_⟩
    · rw [hearly] at hk
      obtain rfl := eq_length_of_isOverdue hrecords hk hr
      rw [hearly, hlate, List.take_left, List.take_left]
    · rw [hearly] at hnone
      exact absurd ((c.withRunLimit d₁).overdue_isOverdue step) (hnone _ (by simp))

def plain : Course :=
  ⟨Catalogue.standard, Settings.standard, CaptureLimits.standard, 0⟩

/-- Three waits of which the second ends in time only under the later deadline. -/
theorem run_deadline_truncates_waits :
    let steps : List Step := [⟨1, "wait 200", 1⟩, ⟨2, "wait 300", 2⟩, ⟨3, "wait 1", 3⟩]
    let s : Stage Browser := ⟨Browser.start Site.empty, 0, none⟩
    400 ≤ 1000 ∧
      ((plain.withRunLimit 400).run steps s).1.map (·.status) = [.passed, .failed, .skipped] ∧
      ((plain.withRunLimit 400).run steps s).1.take 1 =
        ((plain.withRunLimit 1000).run steps s).1.take 1 := by
  intro steps s
  have h := run_deadline_truncates plain (show 400 ≤ 1000 by decide) steps s
  have hrun : ((plain.withRunLimit 400).run steps s).1 =
      [⟨1, "wait 200", some "wait", .passed, "waited 200 ms", 200⟩,
        ⟨2, "wait 300", some "wait", .failed, "timeout: run exceeded 400 ms", 0⟩,
        ⟨3, "wait 1", none, .skipped, "run deadline elapsed", 0⟩] := by
    decide +kernel
  refine ⟨by decide, by rw [hrun]; rfl, h.2.2.1 1 _ (by rw [hrun]; rfl) ?_⟩
  decide +kernel

end Course

end Walkthrough
