import Mathlib.Data.List.Basic
import Walkthrough.Browser.Rig
import Walkthrough.Walk.Procedure

namespace Walkthrough

namespace Procedure

theorem bind_done (p : Procedure α) : p.bind done = p := by
  induction p with
  | done a => rfl
  | call c next ih => exact congrArg (call c) (funext ih)
  | pause ms next ih => exact congrArg (pause ms) ih
  | record v next ih => exact congrArg (record v) ih

theorem bind_assoc (p : Procedure α) (f : α → Procedure β) (g : β → Procedure γ) :
    (p.bind f).bind g = p.bind fun a => (f a).bind g := by
  induction p with
  | done a => rfl
  | call c next ih => exact congrArg (call c) (funext ih)
  | pause ms next ih => exact congrArg (pause ms) ih
  | record v next ih => exact congrArg (record v) ih

instance : LawfulMonad Procedure :=
  LawfulMonad.mk' Procedure bind_done (fun _ _ => rfl) bind_assoc

def Ends (P : α → Prop) : Procedure α → Prop
  | done a => P a
  | call _ next => ∀ answer, (next answer).Ends P
  | pause _ next => next.Ends P
  | record _ next => next.Ends P

theorem ends_bind {P : β → Prop} (p : Procedure α) (f : α → Procedure β) :
    (p.bind f).Ends P ↔ p.Ends fun a => (f a).Ends P := by
  induction p with
  | done a => rfl
  | call c next ih => exact forall_congr' ih
  | pause ms next ih => exact ih
  | record v next ih => exact ih

theorem Ends.imp {P Q : α → Prop} {p : Procedure α} (hp : p.Ends P) (h : ∀ a, P a → Q a) :
    p.Ends Q := by
  induction p with
  | done a => exact h a hp
  | call c next ih => exact fun answer => ih answer (hp answer)
  | pause ms next ih => exact ih hp
  | record v next ih => exact ih hp

theorem Ends.and {P Q : α → Prop} {p : Procedure α} (hP : p.Ends P) (hQ : p.Ends Q) :
    p.Ends fun a => P a ∧ Q a := by
  induction p with
  | done a => exact ⟨hP, hQ⟩
  | call c next ih => exact fun answer => ih answer (hP answer) (hQ answer)
  | pause ms next ih => exact ih hP hQ
  | record v next ih => exact ih hP hQ

theorem ends_true (p : Procedure α) : p.Ends fun _ => True := by
  induction p with
  | done a => trivial
  | call c next ih => exact ih
  | pause ms next ih => exact ih
  | record v next ih => exact ih

theorem bind_congr {P : α → Prop} {p : Procedure α} (hp : p.Ends P) {f g : α → Procedure β}
    (h : ∀ a, P a → f a = g a) : p.bind f = p.bind g := by
  induction p with
  | done a => exact h a hp
  | call c next ih => exact congrArg (call c) (funext fun answer => ih answer (hp answer))
  | pause ms next ih => exact congrArg (pause ms) (ih hp)
  | record v next ih => exact congrArg (record v) (ih hp)

section Run

variable [Host σ]

theorem run_call (d : Option Nat) (c : Call) (next : Except SessionError c.Answer → Procedure α)
    (s : Stage σ) :
    (call c next).run d s =
      (next (Host.respond c s.host).1).run d { s with host := (Host.respond c s.host).2 } := rfl

theorem run_pause_of_le {limit ms : Nat} {s : Stage σ} (h : s.clock + ms ≤ limit)
    (next : Procedure α) :
    (pause ms next).run (some limit) s = next.run (some limit) { s with clock := s.clock + ms } :=
  if_neg (Nat.not_lt.mpr h)

theorem run_pause_of_lt {limit ms : Nat} {s : Stage σ} (h : limit < s.clock + ms)
    (next : Procedure α) : (pause ms next).run (some limit) s = (none, { s with clock := limit }) :=
  if_pos h

/-- A procedure that goes on with another runs as one after the other, unless it is cut short. -/
theorem run_bind (p : Procedure α) (f : α → Procedure β) (d : Option Nat) (s : Stage σ) :
    (p.bind f).run d s =
      match p.run d s with
      | (some a, after) => (f a).run d after
      | (none, after) => (none, after) := by
  induction p generalizing s with
  | done a => rfl
  | call c next ih => exact ih _ _
  | pause ms next ih =>
    cases d with
    | none => exact ih _
    | some limit =>
      rcases Nat.lt_or_ge limit (s.clock + ms) with hcut | hgo
      · rw [bind, run_pause_of_lt hcut, run_pause_of_lt hcut]
      · rw [bind, run_pause_of_le hgo, run_pause_of_le hgo]
        exact ih _
  | record v next ih => exact ih _

theorem run_bind_done (p : Procedure α) (f : α → β) (d : Option Nat) (s : Stage σ) :
    ((p.bind fun a => done (f a)).run d s).2 = (p.run d s).2 := by
  rw [run_bind]
  cases p.run d s with
  | mk r after => cases r <;> rfl

theorem Ends.of_run {P : α → Prop} {p : Procedure α} (hp : p.Ends P) {d : Option Nat} {s : Stage σ}
    {a : α} (h : (p.run d s).1 = some a) : P a := by
  induction p generalizing s with
  | done b =>
    obtain rfl : b = a := Option.some.inj h
    exact hp
  | call c next ih => exact ih _ (hp _) h
  | pause ms next ih =>
    cases d with
    | none => exact ih hp h
    | some limit =>
      rcases Nat.lt_or_ge limit (s.clock + ms) with hl | hl
      · rw [run_pause_of_lt hl] at h
        contradiction
      · rw [run_pause_of_le hl] at h
        exact ih hp h
  | record v next ih => exact ih hp h

theorem clock_run (p : Procedure α) {limit : Nat} {s : Stage σ} (h : s.clock ≤ limit) :
    s.clock ≤ (p.run (some limit) s).2.clock ∧ (p.run (some limit) s).2.clock ≤ limit := by
  induction p generalizing s with
  | done a => exact ⟨Nat.le_refl _, h⟩
  | call c next ih =>
    exact ih _ (s := { s with host := (Host.respond c s.host).2 }) h
  | pause ms next ih =>
    rcases Nat.lt_or_ge limit (s.clock + ms) with hl | hl
    · rw [run_pause_of_lt hl]
      exact ⟨h, Nat.le_refl _⟩
    · rw [run_pause_of_le hl]
      obtain ⟨hfrom, hto⟩ := ih (s := { s with clock := s.clock + ms }) hl
      exact ⟨Nat.le_trans (Nat.le_add_right _ _) hfrom, hto⟩
  | record v next ih =>
    exact ih (s := { s with last := some v }) h

end Run

/-- Makes no calls but those that satisfy `calls`, pauses only where `rests` holds, and takes
nothing down. -/
def Within (calls : Call → Prop) (rests : Prop) : Procedure α → Prop
  | done _ => True
  | call c next => calls c ∧ ∀ answer, (next answer).Within calls rests
  | pause _ next => rests ∧ next.Within calls rests
  | record _ _ => False

theorem within_bind {calls : Call → Prop} {rests : Prop} {P : α → Prop} {p : Procedure α}
    (hp : p.Within calls rests) (hP : p.Ends P) {f : α → Procedure β}
    (hf : ∀ a, P a → (f a).Within calls rests) : (p.bind f).Within calls rests := by
  induction p with
  | done a => exact hf a hP
  | call c next ih => exact ⟨hp.1, fun answer => ih answer (hp.2 answer) (hP answer)⟩
  | pause ms next ih => exact ⟨hp.1, ih hp.2 hP⟩
  | record v next ih => exact hp.elim

theorem within_pollFrom {calls : Call → Prop} {rests : Prop} (hrests : rests)
    {look : Procedure (Except ε α)} (hlook : look.Within calls rests) (timeout passed : Nat) :
    (pollFrom look timeout passed).Within calls rests := by
  induction passed using pollFrom.induct timeout with
  | case1 passed ih =>
    unfold pollFrom
    apply within_bind hlook (ends_true _)
    intro r _
    cases r with
    | ok a => trivial
    | error e =>
      dsimp only
      split
      · trivial
      · rename_i hleft
        exact ⟨hrests, ih hleft⟩

theorem within_poll {calls : Call → Prop} {rests : Prop} (hrests : rests)
    {look : Procedure (Except ε α)} (hlook : look.Within calls rests) (timeout : Nat) :
    (poll look timeout).Within calls rests :=
  within_pollFrom hrests hlook timeout 0

theorem within_awaitElement {calls : Call → Prop} {rests : Prop} (hrests : rests) {q : Query}
    (hq : calls (.query q)) (timeout : Nat) : (awaitElement q timeout).Within calls rests := by
  have hlook : (lookFor q).Within calls rests := by
    refine ⟨hq, fun answer => ?_⟩
    obtain e | _ | _ := answer <;> trivial
  apply within_bind (within_poll hrests hlook _) (ends_true _)
  intro r _
  cases r <;> trivial

/-- Calls that leave a host as it is leave no trace but the time that passes. -/
theorem run_of_within_looks [Host σ] {calls : Call → Prop}
    (hcalls : ∀ c, calls c → ∀ b : σ, (Host.respond c b).2 = b) {rests : Prop} {p : Procedure α}
    (hp : p.Within calls rests) (d : Option Nat) (s : Stage σ) :
    ∃ ms, (p.run d s).2 = { s with clock := ms } := by
  induction p generalizing s with
  | done a => exact ⟨s.clock, rfl⟩
  | call c next ih =>
    rw [run_call, hcalls c hp.1]
    exact ih _ (hp.2 _) s
  | pause ms next ih =>
    cases d with
    | none => exact ih hp.2 { s with clock := s.clock + ms }
    | some limit =>
      rcases Nat.lt_or_ge limit (s.clock + ms) with hcut | hgo
      · rw [run_pause_of_lt hcut]
        exact ⟨limit, rfl⟩
      · rw [run_pause_of_le hgo]
        exact ih hp.2 { s with clock := s.clock + ms }
  | record v next ih => exact hp.elim

theorem host_of_awaitElement [Host σ] {q : Query}
    (hq : ∀ b : σ, (Host.respond (.query q) b).2 = b) (timeout : Nat) (d : Option Nat)
    (s : Stage σ) : ((awaitElement q timeout).run d s).2.host = s.host := by
  have hwithin : (awaitElement q timeout).Within (· = .query q) True := by
    refine within_awaitElement trivial ?_ timeout
    rfl
  have hcalls (c : Call) (hc : c = .query q) (b : σ) : (Host.respond c b).2 = b := by
    subst hc
    exact hq b
  obtain ⟨ms, hrun⟩ := run_of_within_looks hcalls hwithin d s
  rw [hrun]

/-- Calls that leave a host as it is leave no trace, and no deadline ends what does not pause. -/
theorem run_of_within [Host σ] {calls : Call → Prop}
    (hcalls : ∀ c, calls c → ∀ b : σ, (Host.respond c b).2 = b) {p : Procedure α}
    (hp : p.Within calls False) (d : Option Nat) (s : Stage σ) : ∃ a, p.run d s = (some a, s) := by
  induction p with
  | done a => exact ⟨a, rfl⟩
  | call c next ih =>
    rw [run_call, hcalls c hp.1]
    exact ih _ (hp.2 _)
  | pause ms next ih => exact hp.1.elim
  | record v next ih => exact hp.elim

end Procedure

end Walkthrough
