import Walkthrough.Proofs.Walk.Script

namespace Walkthrough

instance : DecidablePred Call.Looks
  | .currentUrl | .query _ | .text _ | .attributeOf _ _ | .inputValue _ => isTrue trivial
  | .loadTiming | .images | .viewport => isTrue trivial
  | .navigate _ | .goBack | .click _ | .fill _ _ | .press _ _ => isFalse id
  | .screenshot _ _ | .request _ _ _ => isFalse id

/-- A call and its answer. -/
structure Exchange where
  call : Call
  answer : Except SessionError call.Answer

namespace Exchange

def Seen (made : List Exchange) : Prop :=
  ∀ x ∈ made, x.call.Looks → x.answer.isOk

instance : DecidablePred Seen := fun made =>
  inferInstanceAs (Decidable (∀ x ∈ made, x.call.Looks → x.answer.isOk))

theorem seen_append {made more : List Exchange} :
    Seen (made ++ more) ↔ Seen made ∧ Seen more :=
  List.forall_mem_append

end Exchange

namespace Procedure

variable [Host σ]

def exchanges (deadline : Option Nat) : Procedure α → Stage σ → List Exchange
  | done _, _ => []
  | call c next, s =>
    let (answer, host) := Host.respond c s.host
    ⟨c, answer⟩ :: (next answer).exchanges deadline { s with host := host }
  | pause ms next, s =>
    match deadline with
    | none => next.exchanges deadline { s with clock := s.clock + ms }
    | some limit =>
      if limit < s.clock + ms then []
      else next.exchanges deadline { s with clock := s.clock + ms }
  | record v next, s => next.exchanges deadline { s with last := some v }

theorem exchanges_pause_of_le {limit ms : Nat} {s : Stage σ} (h : s.clock + ms ≤ limit)
    (next : Procedure α) :
    (pause ms next).exchanges (some limit) s =
      next.exchanges (some limit) { s with clock := s.clock + ms } :=
  if_neg (Nat.not_lt.mpr h)

theorem exchanges_pause_of_lt {limit ms : Nat} {s : Stage σ} (h : limit < s.clock + ms)
    (next : Procedure α) : (pause ms next).exchanges (some limit) s = [] :=
  if_pos h

/-- A procedure that goes on with another makes the calls of both, unless it is cut short. -/
theorem exchanges_bind (p : Procedure α) (f : α → Procedure β) (d : Option Nat) (s : Stage σ) :
    (p.bind f).exchanges d s = p.exchanges d s ++
      match p.run d s with
      | (some a, after) => (f a).exchanges d after
      | (none, _) => [] := by
  induction p generalizing s with
  | done a => rfl
  | call c next ih => exact congrArg (List.cons _) (ih _ _)
  | pause ms next ih =>
    cases d with
    | none => exact ih _
    | some limit =>
      -- where the deadline cuts the first part short, the second one is not reached
      by_cases hcut : limit < s.clock + ms
      · rw [bind, exchanges_pause_of_lt hcut, exchanges_pause_of_lt hcut, run_pause_of_lt hcut]
        rfl
      · have hgo : s.clock + ms ≤ limit := Nat.le_of_not_lt hcut
        rw [bind, exchanges_pause_of_le hgo, exchanges_pause_of_le hgo, run_pause_of_le hgo]
        exact ih _
  | record v next ih => exact ih _

/-- A run that comes to an end: the calls it makes, its result, and where it leads. -/
structure Performs (d : Option Nat) (p : Procedure α) (s : Stage σ) (made : List Exchange) (a : α)
    (after : Stage σ) : Prop where
  run : p.run d s = (some a, after)
  exchanges : p.exchanges d s = made

variable {d : Option Nat} {s after last : Stage σ} {made more : List Exchange}

theorem performs_done (a : α) (d : Option Nat) (s : Stage σ) : Performs d (done a) s [] a s :=
  ⟨rfl, rfl⟩

theorem performs_call {c : Call} {next : Except SessionError c.Answer → Procedure α} {a : α}
    (h : (next (Host.respond c s.host).1).Performs d { s with host := (Host.respond c s.host).2 }
      made a after) :
    (call c next).Performs d s (⟨c, (Host.respond c s.host).1⟩ :: made) a after :=
  ⟨h.run, congrArg (List.cons _) h.exchanges⟩

theorem Performs.bind {p : Procedure α} {a : α} (hp : p.Performs d s made a after)
    {f : α → Procedure β} {b : β} (hf : (f a).Performs d after more b last) :
    (p.bind f).Performs d s (made ++ more) b last := by
  constructor
  · rw [run_bind, hp.run]
    exact hf.run
  · rw [exchanges_bind, hp.run, hp.exchanges]
    exact congrArg (made ++ ·) hf.exchanges

end Procedure

namespace Script

variable [Host σ] {d : Option Nat} {s after last : Stage σ} {made more : List Exchange} {v : View}

open Procedure (Performs)

theorem performs_bind {m : Script α} {a : α} (hm : (m v).Performs d s made (.ok a) after)
    {f : α → Script β} {r : Except StepError β} (hf : (f a v).Performs d after more r last) :
    Performs d ((m >>= f) v) s (made ++ more) r last := by
  rw [bind_apply]
  exact hm.bind hf

theorem performs_bind_of_error {m : Script α} {e : StepError}
    (hm : (m v).Performs d s made (.error e) after) (f : α → Script β) :
    Performs d ((m >>= f) v) s made (.error e) after := by
  rw [bind_apply, ← List.append_nil made]
  exact hm.bind (Procedure.performs_done _ d after)

theorem performs_attempt {m : Script α} {r : Except StepError α}
    (hm : (m v).Performs d s made r after) :
    Performs d (attempt m v) s made (.ok r) after := by
  rw [← List.append_nil made]
  exact hm.bind (Procedure.performs_done _ d after)

theorem performs_ask (c : Call) (v : View) (d : Option Nat) (s : Stage σ) :
    Performs d (ask c v) s [⟨c, (Host.respond c s.host).1⟩] (.ok (Host.respond c s.host).1)
      { s with host := (Host.respond c s.host).2 } :=
  ⟨rfl, rfl⟩

theorem performs_call_of_ok {c : Call} {a : c.Answer} {host : σ}
    (h : Host.respond c s.host = (.ok a, host)) (v : View) (d : Option Nat) :
    Performs d (call c v) s [⟨c, .ok a⟩] (.ok a) { s with host := host } := by
  have hask := performs_ask c v d s
  rw [h] at hask
  exact performs_bind hask (Procedure.performs_done _ d _)

theorem performs_call_of_error {c : Call} {e : SessionError} {host : σ}
    (h : Host.respond c s.host = (.error e, host)) (v : View) (d : Option Nat) :
    Performs d (call c v) s [⟨c, .error e⟩] (.error (.browser e)) { s with host := host } := by
  have hask := performs_ask c v d s
  rw [h] at hask
  exact performs_bind hask (Procedure.performs_done _ d _)

theorem seen_left {m : Script α} {f : α → Script β}
    (h : Exchange.Seen (((m >>= f) v).exchanges d s)) : Exchange.Seen ((m v).exchanges d s) := by
  rw [bind_apply, Procedure.exchanges_bind] at h
  exact (Exchange.seen_append.mp h).1

theorem exchanges_bind_of_performs {m : Script α} {a : α}
    (hm : (m v).Performs d s made (.ok a) after) (f : α → Script β) :
    ((m >>= f) v).exchanges d s = made ++ (f a v).exchanges d after := by
  rw [bind_apply, Procedure.exchanges_bind, hm.run, hm.exchanges]

end Script

end Walkthrough
