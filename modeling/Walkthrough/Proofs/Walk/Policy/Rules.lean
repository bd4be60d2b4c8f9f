import Mathlib.Data.List.Basic
import Walkthrough.Proofs.Walk.Invariant

namespace Walkthrough

namespace Procedure

def finish : Procedure α → Browser → α × Browser
  | done a, b => (a, b)
  | call c next, b => (next (b.respond c).1).finish (b.respond c).2
  | pause _ next, b => next.finish b
  | record _ next, b => next.finish b

theorem finish_bind (p : Procedure α) (f : α → Procedure β) (b : Browser) :
    (p.bind f).finish b = (f (p.finish b).1).finish (p.finish b).2 := by
  induction p generalizing b with
  | done a => rfl
  | call c next ih => exact ih _ _
  | pause ms next ih => exact ih _
  | record v next ih => exact ih _

theorem finish_do (p : Procedure α) (f : α → Procedure β) (b : Browser) :
    (p >>= f).finish b = (f (p.finish b).1).finish (p.finish b).2 :=
  finish_bind p f b

theorem finish_ask (c : Call) (b : Browser) : (ask c).finish b = b.respond c := rfl

theorem finish_of_run {p : Procedure α} {d : Option Nat} {s : Stage Browser} {a : α}
    (h : (p.run d s).1 = some a) : (p.finish s.host).1 = a := by
  induction p generalizing s with
  | done b => exact Option.some.inj h
  | call c next ih => exact ih _ h
  | pause ms next ih =>
    cases d with
    | none => exact ih (s := { s with clock := s.clock + ms }) h
    | some limit =>
      rcases Nat.lt_or_ge limit (s.clock + ms) with hcut | hgo
      -- a run that is cut short has no result
      · rw [run_pause_of_lt hcut] at h
        contradiction
      · rw [run_pause_of_le hgo] at h
        exact ih (s := { s with clock := s.clock + ms }) h
  | record v next ih => exact ih (s := { s with last := some v }) h

theorem isSome_run_none (p : Procedure α) (s : Stage Browser) : (p.run none s).1.isSome := by
  induction p generalizing s with
  | done a => rfl
  | call c next ih => exact ih _ _
  | pause ms next ih => exact ih _
  | record v next ih => exact ih _

end Procedure

namespace Script

/-- With a browser of which `P` holds a script ends with `Q`, or it fails in one of the kinds. -/
structure Meets (kinds : List String) (P : Browser → Prop) (m : Script α)
    (Q : α → Browser → Prop) : Prop where
  finish : ∀ v b, P b → match Procedure.finish (m v) b with
    | (.ok a, after) => Q a after
    | (.error e, _) => e.kind ∈ kinds

/-- With a browser of which `P` holds a script fails in one of the kinds, if at all. -/
def FailsOnly (kinds : List String) (P : Browser → Prop) (m : Script α) : Prop :=
  Meets kinds P m fun _ _ => True

variable {kinds : List String} {P : Browser → Prop}

theorem FailsOnly.kind_mem {m : Script α} (h : FailsOnly kinds P m) {v : View} {b : Browser}
    (hb : P b) {e : StepError} (he : (Procedure.finish (m v) b).1 = .error e) :
    e.kind ∈ kinds := by
  have hfinish := h.finish v b hb
  cases hr : Procedure.finish (m v) b with
  | mk r after =>
    rw [hr] at hfinish he
    obtain rfl : r = .error e := he
    exact hfinish

theorem meets_pure {Q : α → Browser → Prop} {a : α} (h : ∀ b, P b → Q a b) :
    Meets kinds P (pure a) Q :=
  ⟨fun _ b hb => h b hb⟩

theorem meets_throw {Q : α → Browser → Prop} {e : StepError} (h : e.kind ∈ kinds) :
    Meets kinds P (throw e) Q :=
  ⟨fun _ _ _ => h⟩

theorem Meets.bind {Q : β → Browser → Prop} {R : α → Browser → Prop} {m : Script α}
    {f : α → Script β} (hm : Meets kinds P m R) (hf : ∀ a, Meets kinds (R a) (f a) Q) :
    Meets kinds P (m >>= f) Q := by
  constructor
  intro v b hb
  have hfirst := hm.finish v b hb
  rw [bind_apply, Procedure.finish_bind]
  cases hfinish : Procedure.finish (m v) b with
  | mk r after =>
    rw [hfinish] at hfirst
    cases r with
    | ok a => exact (hf a).finish v after hfirst
    | error e => exact hfirst

theorem Meets.imp {P' : Browser → Prop} {Q Q' : α → Browser → Prop} {m : Script α}
    (h : Meets kinds P m Q) (hP : ∀ b, P' b → P b) (hQ : ∀ a b, Q a b → Q' a b) :
    Meets kinds P' m Q' := by
  constructor
  intro v b hb
  have hm := h.finish v b (hP b hb)
  split at hm
  · exact hQ _ _ hm
  · exact hm

theorem meets_settings {Q : α → Browser → Prop} {f : Settings → Script α}
    (h : ∀ s, Meets kinds P (f s) Q) : Meets kinds P (settings >>= f) Q :=
  ⟨fun v b hb => (h v.settings).finish v b hb⟩

theorem meets_read {Q : α → Browser → Prop} {f : View → Script α}
    (h : ∀ v, Meets kinds P (f v) Q) : Meets kinds P (read >>= f) Q :=
  ⟨fun v b hb => (h v).finish v b hb⟩

theorem meets_lift {Q : α → Browser → Prop} {p : Procedure α}
    (h : ∀ b, P b → Q (p.finish b).1 (p.finish b).2) : Meets kinds P (lift p) Q := by
  constructor
  intro v b hb
  have hfinish : Procedure.finish (lift p v) b = (.ok (p.finish b).1, (p.finish b).2) :=
    p.finish_bind _ b
  rw [hfinish]
  exact h b hb

theorem meets_ask (c : Call) :
    Meets kinds P (ask c) fun answer after => ∃ b, P b ∧ b.respond c = (answer, after) :=
  meets_lift fun b hb => ⟨b, hb, rfl⟩

theorem meets_call {c : Call} {Q : c.Answer → Browser → Prop}
    (h : ∀ b, P b → ∃ a, (b.respond c).1 = .ok a ∧ Q a (b.respond c).2) :
    Meets kinds P (call c) Q := by
  refine (meets_ask c).bind fun answer => ⟨fun v after hasked => ?_⟩
  obtain ⟨b, hb, hrespond⟩ := hasked
  obtain ⟨a, ha, hQ⟩ := h b hb
  rw [hrespond] at ha hQ
  obtain rfl : answer = .ok a := ha
  exact hQ

theorem meets_attempt (m : Script α) : Meets kinds P (attempt m) fun _ _ => True := by
  constructor
  intro v b _
  have hfinish : Procedure.finish (attempt m v) b =
      (.ok (Procedure.finish (m v) b).1, (Procedure.finish (m v) b).2) :=
    Procedure.finish_bind (m v) _ b
  rw [hfinish]
  trivial

theorem only_pure (a : α) : FailsOnly kinds P (pure a) :=
  meets_pure fun _ _ => trivial

theorem Meets.only {Q : α → Browser → Prop} {m : Script α} (h : Meets kinds P m Q) :
    FailsOnly kinds P m :=
  h.imp (fun _ hb => hb) fun _ _ _ => trivial

theorem only_throw {e : StepError} (h : e.kind ∈ kinds) :
    FailsOnly kinds P (throw e : Script α) :=
  meets_throw h

theorem only_settings {f : Settings → Script α} (h : ∀ s, FailsOnly kinds P (f s)) :
    FailsOnly kinds P (settings >>= f) :=
  meets_settings h

theorem only_read {f : View → Script α} (h : ∀ v, FailsOnly kinds P (f v)) :
    FailsOnly kinds P (read >>= f) :=
  meets_read h

theorem only_ite {c : Prop} [Decidable c] {m n : Script α} (hm : FailsOnly kinds P m)
    (hn : FailsOnly kinds P n) : FailsOnly kinds P (if c then m else n) := by
  split
  · exact hm
  · exact hn

theorem FailsOnly.anywhere {m : Script α} (h : FailsOnly kinds (fun _ => True) m) :
    FailsOnly kinds P m :=
  h.imp (fun _ _ => trivial) fun _ _ h => h

theorem FailsOnly.bind {m : Script α} {f : α → Script β} (hm : FailsOnly kinds P m)
    (hf : ∀ a, FailsOnly kinds (fun _ => True) (f a)) : FailsOnly kinds P (m >>= f) :=
  Meets.bind hm hf

theorem only_ofExcept {r : Except StepError α} (h : ∀ e, r = .error e → e.kind ∈ kinds) :
    FailsOnly kinds P (ofExcept r) := by
  cases r with
  | ok a => exact only_pure a
  | error e => exact meets_throw (h e rfl)

theorem only_ask {c : Call} {f : Except SessionError c.Answer → Script α}
    (h : ∀ answer, FailsOnly kinds (fun _ => True) (f answer)) :
    FailsOnly kinds P (ask c >>= f) :=
  (meets_ask c).bind fun answer => (h answer).anywhere

theorem meets_settle (ms : Nat) : Meets kinds P (settle ms) fun _ => P := by
  refine meets_settings fun s => ?_
  dsimp only
  split
  · exact meets_lift fun _ hb => hb
  · exact meets_pure fun _ hb => hb

theorem only_settle {ms : Nat} {next : Script α} (h : FailsOnly kinds P next) :
    FailsOnly kinds P (settle ms >>= fun _ => next) :=
  (meets_settle ms).bind fun _ => h

end Script

end Walkthrough
