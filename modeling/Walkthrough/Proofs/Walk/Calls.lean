import Walkthrough.Proofs.Walk.Invariant

namespace Walkthrough

inductive Procedure.Makes (P : Call → Prop) : Procedure α → Prop
  | done (a : α) : Makes P (done a)
  | call {c : Call} {next : Except SessionError c.Answer → Procedure α} (h : P c)
      (hnext : ∀ answer, Makes P (next answer)) : Makes P (call c next)
  | pause {ms : Nat} {next : Procedure α} (h : Makes P next) : Makes P (pause ms next)
  | record {v : Visit} {next : Procedure α} (h : Makes P next) : Makes P (record v next)

variable {P : Call → Prop}

namespace Procedure

theorem makes_bind {Q : α → Prop} {p : Procedure α} (hp : p.Makes P) (hQ : p.Ends Q)
    {f : α → Procedure β} (hf : ∀ a, Q a → (f a).Makes P) : (p.bind f).Makes P := by
  induction hp with
  | done a => exact hf a hQ
  | call h _ ih => exact .call h fun answer => ih answer (hQ answer)
  | pause _ ih => exact .pause (ih hQ)
  | record _ ih => exact .record (ih hQ)

theorem Within.makes {calls : Call → Prop} (hcalls : ∀ c, calls c → P c) {rests : Prop}
    {p : Procedure α} (hp : p.Within calls rests) : p.Makes P := by
  induction p with
  | done a => exact .done a
  | call c next ih => exact .call (hcalls c hp.1) fun answer => ih answer (hp.2 answer)
  | pause ms next ih => exact .pause (ih hp.2)
  | record v next ih => exact hp.elim

/-- What no call that is made breaks holds of a host to the end of a run, also of one that a
deadline ends. -/
theorem Makes.host_run [Host σ] {I : σ → Prop}
    (hI : ∀ c host, P c → I host → I (Host.respond c host).2) {p : Procedure α} (hp : p.Makes P)
    (d : Option Nat) {s : Stage σ} (h : I s.host) : I (p.run d s).2.host := by
  induction hp generalizing s with
  | done a => exact h
  | call hc _ ih => exact ih _ (hI _ s.host hc h)
  | @pause ms _ _ ih =>
    cases d with
    | none => exact ih h
    | some limit =>
      rcases Nat.lt_or_ge limit (s.clock + ms) with hcut | hgo
      · rw [run_pause_of_lt hcut]
        exact h
      · rw [run_pause_of_le hgo]
        exact ih h
  | record _ ih => exact ih h

end Procedure

namespace Script

variable {v : View}

theorem makes_bind_of_yields {Q : α → Prop} {m : Script α} {f : α → Script β}
    (hm : Procedure.Makes P (m v)) (hQ : Yields Q m v)
    (hf : ∀ a, Q a → Procedure.Makes P (f a v)) : Procedure.Makes P ((m >>= f) v) := by
  rw [bind_apply]
  apply Procedure.makes_bind hm hQ
  intro r hr
  cases r with
  | ok a => exact hf a hr
  | error e => exact .done _

theorem makes_bind {m : Script α} {f : α → Script β} (hm : Procedure.Makes P (m v))
    (hf : ∀ a, Procedure.Makes P (f a v)) : Procedure.Makes P ((m >>= f) v) :=
  makes_bind_of_yields hm (yields_true m v) fun a _ => hf a

theorem makes_ite {c : Prop} [Decidable c] {m n : Script α} (hm : Procedure.Makes P (m v))
    (hn : Procedure.Makes P (n v)) : Procedure.Makes P ((if c then m else n) v) := by
  split
  · exact hm
  · exact hn

theorem makes_attempt {m : Script α} (hm : Procedure.Makes P (m v)) :
    Procedure.Makes P (attempt m v) :=
  Procedure.makes_bind hm (Procedure.ends_true _) fun _ _ => .done _

theorem makes_discard {m : Script α} (hm : Procedure.Makes P (m v)) :
    Procedure.Makes P (discard m v) := by
  rw [discard_eq]
  exact makes_bind hm fun _ => .done _

theorem makes_call {c : Call} (h : P c) (v : View) : Procedure.Makes P (call c v) := by
  refine .call h fun answer => ?_
  cases answer <;> exact .done _

theorem makes_navigate (hnavigate : ∀ url, P (.navigate url)) (target : String) (v : View) :
    Procedure.Makes P (navigate target v) := by
  unfold navigate
  rw [settings_bind]
  cases v.settings.resolve target with
  | error e => exact .done _
  | ok url =>
    refine .call (hnavigate url) fun answer => ?_
    cases answer with
    | ok visit => exact .record (.done _)
    | error e =>
      change Procedure.Makes P ((if e.kind == .navigationTimeout then _ else _ : Script Visit) v)
      exact makes_ite (.done _) (.done _)

theorem Keeps.makes {t : Terms} (hcalls : ∀ c, t.calls c → P c)
    (hnavigate : ∀ url, P (.navigate url)) {Q : α → Prop} {m : Script α} (hm : Keeps t Q m)
    (v : View) : Procedure.Makes P (m v) := by
  induction hm with
  | pure | throw => exact .done _
  | lift hp => exact Procedure.makes_bind (hp.makes hcalls) (Procedure.ends_true _) fun _ _ => .done _
  | navigate _ target => exact makes_navigate hnavigate target v
  | attempt _ ih => exact makes_attempt ih
  | view g _ _ ih => exact ih (g v)
  | bind hm _ ihm ihf => exact makes_bind_of_yields ihm (hm.yields v) ihf

end Script

end Walkthrough
