import Walkthrough.Proofs.Walk.Run

namespace Walkthrough

/-- What holds of a stage whatever a step does there, as long as it does not navigate. -/
structure Stage.StayInvariant [Host σ] (I : Stage σ → Prop) : Prop where
  clock : ∀ s ms, I s → I { s with clock := ms }
  call : ∀ c s, c.kind ≠ .navigate → I s → I { s with host := (Host.respond c s.host).2 }

/-- What holds of a stage whatever a step does there. A navigation and the visit taken down for it
are one act: nothing comes between them. -/
structure Stage.Invariant [Host σ] (I : Stage σ → Prop) : Prop extends Stage.StayInvariant I where
  visit : ∀ url s v, I s → (Host.respond (.navigate url) s.host).1 = .ok v →
    I { s with host := (Host.respond (.navigate url) s.host).2, last := some v }
  miss : ∀ url s e, I s → (Host.respond (.navigate url) s.host).1 = .error e →
    I { s with host := (Host.respond (.navigate url) s.host).2 }

theorem Stage.invariant_of_respond [Host σ] {J : σ → Prop}
    (h : ∀ c host, J host → J (Host.respond c host).2) : Stage.Invariant fun s => J s.host where
  clock _ _ hs := hs
  call c s _ hs := h c s.host hs
  visit url s _ hs _ := h (.navigate url) s.host hs
  miss url s _ hs _ := h (.navigate url) s.host hs

variable [Host σ] {I : Stage σ → Prop}

theorem Procedure.invariant_run (hI : Stage.StayInvariant I) {calls : Call → Prop} {rests : Prop}
    (hcalls : ∀ c, calls c → c.kind ≠ .navigate) {p : Procedure α} (hp : p.Within calls rests)
    (d : Option Nat) {s : Stage σ} (h : I s) : I (p.run d s).2 := by
  induction p generalizing s with
  | done a => exact h
  | call c next ih => exact ih _ (hp.2 _) (hI.call c s (hcalls c hp.1) h)
  | pause ms next ih =>
    cases d with
    | none => exact ih hp.2 (hI.clock s _ h)
    | some limit =>
      rcases Nat.lt_or_ge limit (s.clock + ms) with hcut | hgo
      · rw [run_pause_of_lt hcut]
        exact hI.clock s _ h
      · rw [run_pause_of_le hgo]
        exact ih hp.2 (hI.clock s _ h)
  | record v next ih => exact hp.elim

namespace Script

def navigationFailure (url : String) (e : SessionError) : StepError :=
  if e.kind == .navigationTimeout then .timeout ("navigation to " ++ url)
  else .navigation url e.message

/-- To navigate is to make one call where the target can be resolved, and to take down where it
led to. -/
theorem run_navigate (target : String) (v : View) (d : Option Nat) (s : Stage σ) :
    Procedure.run d (navigate target v) s =
      match v.settings.resolve target with
      | .error e => (some (.error e), s)
      | .ok url =>
        let after := { s with host := (Host.respond (.navigate url) s.host).2 }
        match (Host.respond (.navigate url) s.host).1 with
        | .ok visit => (some (.ok visit), { after with last := some visit })
        | .error e => (some (.error (navigationFailure url e)), after) := by
  unfold navigate navigationFailure
  rw [settings_bind]
  cases v.settings.resolve target with
  | error e => rfl
  | ok url =>
    have hrun (next : Except SessionError Visit → Script Visit) :
        Procedure.run d ((ask (.navigate url) >>= next) v) s =
          Procedure.run d (next (Host.respond (.navigate url) s.host).1 v)
            { s with host := (Host.respond (.navigate url) s.host).2 } := rfl
    refine (hrun _).trans ?_
    dsimp only
    cases (Host.respond (.navigate url) s.host).1 with
    | ok visit => rfl
    | error e =>
      dsimp only
      split <;> rfl

theorem invariant_navigate (hI : Stage.Invariant I) (target : String) (v : View) (d : Option Nat)
    {s : Stage σ} (h : I s) : I (Procedure.run d (navigate target v) s).2 := by
  rw [run_navigate]
  cases v.settings.resolve target with
  | error e => exact h
  | ok url =>
    dsimp only
    cases hanswer : (Host.respond (.navigate url) s.host).1 with
    | ok visit => exact hI.visit url s visit h hanswer
    | error e => exact hI.miss url s e h hanswer

theorem Keeps.invariant {t : Terms} (ht : ∀ c, t.calls c → c.kind ≠ .navigate)
    (hI : Stage.Invariant I) {Q : α → Prop} {m : Script α} (hm : Keeps t Q m) (v : View)
    (d : Option Nat) {s : Stage σ} (h : I s) : I (Procedure.run d (m v) s).2 := by
  -- the induction is on what the script is made of, its view stays the same throughout
  induction hm generalizing s with
  | pure | throw => exact h
  | @lift _ p hp =>
    have hrun : (Procedure.run d (Script.lift p v) s).2 = (p.run d s).2 := p.run_bind_done _ d s
    rw [hrun]
    exact p.invariant_run hI.toStayInvariant ht hp d h
  | navigate _ target => exact invariant_navigate hI target v d h
  | @attempt _ _ m _ ih =>
    have hrun : (Procedure.run d (Script.attempt m v) s).2 = (Procedure.run d (m v) s).2 :=
      Procedure.run_bind_done (m v) _ d s
    rw [hrun]
    exact ih h
  | view g _ _ ih => exact ih (g v) h
  | @bind _ _ _ _ m f hm _ ihm ihf =>
    have hfirst := ihm h
    rw [bind_apply, Procedure.run_bind]
    cases hrun : Procedure.run d (m v) s with
    | mk r after =>
      rw [hrun] at hfirst
      cases r with
      | none => exact hfirst
      | some r =>
        have hyields := (hm.yields v).of_run (congrArg Prod.fst hrun)
        cases r with
        | ok a => exact ihf a hyields hfirst
        | error e => exact hfirst

end Script

namespace Course

variable {c : Course}

theorem invariant_runStep (hI : Stage.Invariant I) (d : Option Nat) (step : Step) {s : Stage σ}
    (h : I s) : I (c.runStep d step s).2 :=
  of_runStep d h fun command args _ =>
    (command.effect.keeps_eq args).invariant (fun _ hc => hc) hI (c.view s) d h

theorem invariant_runSteps (hI : Stage.Invariant I) (d : Option Nat) (steps : List Step)
    {s : Stage σ} (h : I s) : I (c.runSteps d steps s).2 :=
  of_runSteps d h fun step _ _ => invariant_runStep hI d step

/-- The stages that single steps, which no deadline ends, and whole runs lead to, in any order. -/
inductive Reach (c : Course) (start : Stage σ) : Stage σ → Prop
  | refl : c.Reach start start
  | step {s : Stage σ} (h : c.Reach start s) (step : Step) : c.Reach start (c.runStep none step s).2
  | run {s : Stage σ} (h : c.Reach start s) (steps : List Step) : c.Reach start (c.run steps s).2

theorem Reach.invariant {s s' : Stage σ} (hI : Stage.Invariant I) (hr : c.Reach s s') (h : I s) :
    I s' := by
  induction hr with
  | refl => exact h
  | step _ step ih => exact invariant_runStep hI none step ih
  | run _ steps ih => exact invariant_runSteps hI _ steps ih

end Course

end Walkthrough
