import Walkthrough.Proofs.Walk.Action.Perform
import Walkthrough.Proofs.Walk.Oracle

namespace Walkthrough

namespace Strategy

def counted (s : Strategy) : Except SessionError (List Handle) → List Handle
  | .ok found => s.pick found
  | .error _ => []

/-- A selector with an index and a least number counts if it matches that many elements and one at
the index, and then this one alone counts. -/
theorem pick_nth (selector : String) (index least : Nat) (found : List Handle) :
    (nth selector index least).pick found =
      if h : max least (index + 1) ≤ found.length then [found[index]] else [] := by
  unfold pick
  dsimp only
  by_cases h : max least (index + 1) ≤ found.length
  · have hindex : index < found.length := by omega
    rw [if_neg (by omega), dif_pos h, List.drop_eq_getElem_cons hindex]
    rfl
  · rw [if_pos (by omega), dif_neg h]

end Strategy

namespace Search

/-- The elements that count for the strategy at a place, when all before it have been tried. -/
def countedAt (strategies : List Strategy) (o : Oracle) (i : Nat) : List Handle :=
  match strategies[i]? with
  | some strategy => strategy.counted (o.next i (.query strategy.question))
  | none => []

/-- What strategies come to, and how many of them have been tried by then. -/
inductive Settles (strategies : List Strategy) (o : Oracle) : Option Found → Nat → Prop
  | first {i : Nat} {strategy : Strategy} (hi : strategies[i]? = some strategy)
    (hbefore : ∀ j < i, countedAt strategies o j = []) {h : Handle} {more : List Handle}
    (hcounted : countedAt strategies o i = h :: more) :
    Settles strategies o
      (some ⟨h, strategy.tier, strategy.describe, (h :: more).length⟩) (i + 1)
  | exhausted (hnone : ∀ j < strategies.length, countedAt strategies o j = []) :
    Settles strategies o none strategies.length

theorem countedAt_cons_succ (strategy : Strategy) (rest : List Strategy) (o : Oracle) (i : Nat) :
    countedAt (strategy :: rest) o (i + 1) =
      countedAt rest (o.after [.query strategy.question]) i := by
  unfold countedAt
  simp [Nat.add_comm 1 i]

theorem Settles.cons {strategy : Strategy} {rest : List Strategy} {o : Oracle} {r : Option Found}
    {n : Nat} (hempty : strategy.counted (o.next 0 (.query strategy.question)) = [])
    (h : Settles rest (o.after [.query strategy.question]) r n) :
    Settles (strategy :: rest) o r (n + 1) := by
  -- the strategies are tried one place later than without the one in front
  have hshift : ∀ {m}, (∀ j < m, countedAt rest (o.after [.query strategy.question]) j = []) →
      ∀ j < m + 1, countedAt (strategy :: rest) o j = [] := by
    intro m hm j hj
    cases j with
    | zero => exact hempty
    | succ j =>
      rw [countedAt_cons_succ]
      exact hm j (by omega)
  cases h with
  | @first i later hi hbefore h more hcounted =>
    have hi' : (strategy :: rest)[i + 1]? = some later := hi
    exact .first hi' (hshift hbefore) ((countedAt_cons_succ _ _ _ i).trans hcounted)
  | exhausted hnone => exact .exhausted (hshift hnone)

theorem run_settle_cons (strategy : Strategy) (rest : List Strategy) (d : Option Nat)
    (s : Stage Oracle) :
    (settle (strategy :: rest)).run d s =
      match strategy.counted (s.host.next 0 (.query strategy.question)) with
      | h :: more => (some (some ⟨h, strategy.tier, strategy.describe, (h :: more).length⟩),
          s.later [.query strategy.question] 0)
      | [] => (settle rest).run d (s.later [.query strategy.question] 0) := by
  show ((Procedure.bind (Procedure.bind (Procedure.ask _) _) _)).run d s = _
  rw [Procedure.bind_assoc, Procedure.run_bind, Procedure.ask, Procedure.run_call_later]
  cases s.host.next 0 (.query strategy.question) with
  | error e => rfl
  | ok found =>
    cases hpick : strategy.pick found <;>
      simp [Strategy.counted, hpick, Procedure.run, pure, Procedure.bind]

/-- A search asks one query for each strategy that it tries, and makes no other call. -/
theorem run_settle (strategies : List Strategy) (d : Option Nat) (s : Stage Oracle) :
    ∃ r n, Settles strategies s.host r n ∧ (settle strategies).run d s =
      (some r, s.later ((strategies.take n).map fun strategy => .query strategy.question) 0) := by
  induction strategies generalizing s with
  | nil =>
    refine ⟨none, 0, .exhausted nofun, ?_⟩
    simp [settle, Procedure.run, pure]
  | cons strategy rest ih =>
    rw [run_settle_cons]
    cases hcounted : strategy.counted (s.host.next 0 (.query strategy.question)) with
    | nil =>
      obtain ⟨found, n, hsettles, hrest⟩ := ih (s.later [.query strategy.question] 0)
      refine ⟨found, n + 1, hsettles.cons hcounted, ?_⟩
      simp [hrest]
    | cons h more =>
      have hfirst : (strategy :: rest)[0]? = some strategy := rfl
      exact ⟨_, 1, .first hfirst (fun i hi => absurd hi (Nat.not_lt_zero i)) hcounted, rfl⟩

end Search

theorem StepError.kind_of_isOwn {e : StepError} (h : e.IsOwn) : e.kind ≠ "locator" := by
  cases e with
  | search e => exact h.elim
  | _ => simp [kind]

namespace Script

/-- In the end a script has a result or a failure of its own. -/
def FailsItself (m : Script α) (v : View) : Prop :=
  Procedure.Ends (fun r => ∀ e, r = .error e → e.IsOwn) (m v)

theorem failsItself_navigate (target : String) (v : View) : FailsItself (navigate target) v := by
  unfold navigate FailsItself
  rw [settings_bind]
  cases hresolve : v.settings.resolve target with
  | error e => exact failsWith_throw (Settings.isOwn_of_resolve hresolve) v
  | ok url =>
    refine FailsWith.bind (failsWith_pure url v) (yields_true _ v) fun url _ => ?_
    refine FailsWith.bind (failsWith_lift _ v) (yields_true _ v) fun answer _ => ?_
    cases answer with
    | ok visit =>
      exact FailsWith.bind (failsWith_lift _ v) (yields_true _ v) fun _ _ =>
        failsWith_pure visit v
    | error e =>
      dsimp only
      split
      · exact failsWith_throw (e := .timeout _) trivial v
      · exact failsWith_throw (e := .navigation _ _) trivial v

theorem Keeps.failsItself {t : Terms} {Q : α → Prop} {m : Script α} (hm : Keeps t Q m) (v : View) :
    FailsItself m v := by
  induction hm with
  | pure _ => exact failsWith_pure _ v
  | throw e h => exact failsWith_throw h v
  | lift _ => exact failsWith_lift _ v
  | navigate _ target => exact failsItself_navigate target v
  | attempt _ _ => exact failsWith_attempt _ v
  | view g _ _ ih => exact ih (g v)
  | bind hm _ ihm ihf => exact FailsWith.bind ihm (hm.yields v) ihf

end Script

namespace Search

/-- Whatever calls answer, a search does not fail. It asks the query of one strategy after the other,
up to the first of which any elements count, and makes no other call; it settles on the first of these
elements, or on none if there is no such strategy. Where an element is required, to find none is the
only failure, and it tells that the strategies are exhausted. Of a strategy with an index the element
there counts, if enough are found. No step ever fails because a search does. -/
theorem first_strategy_settles (search : Search) (d : Option Nat) (s : Stage Oracle) :
    (∃ r n, Settles search.strategies s.host r n ∧
      let after :=
        s.later ((search.strategies.take n).map fun strategy => .query strategy.question) 0
      search.resolve.run d s = (some (.ok r), after) ∧
        search.require.run d s = (some (match r with
          | some found => .ok found
          | none => .error (.notFound search.exhausted)), after)) ∧
    (∀ selector index least found, (Strategy.nth selector index least).pick found =
      if h : max least (index + 1) ≤ found.length then [found[index]] else []) ∧
    ∀ {σ : Type} [Host σ] (effect : Effect) (args : Arguments) (v : View) (d : Option Nat)
      (s : Stage σ) (e : StepError),
      (Procedure.run d (effect.script args v) s).1 = some (.error e) → e.kind ≠ "locator" := by
  refine ⟨?_, Strategy.pick_nth, fun effect args v d s e h => ?_⟩
  · obtain ⟨r, n, hsettles, hrun⟩ := run_settle search.strategies d s
    refine ⟨r, n, hsettles, ?_, ?_⟩
    · rw [resolve_eq, Procedure.run_bind, hrun]
      rfl
    · rw [require_eq, Procedure.run_bind, hrun]
      cases r <;> rfl
  · have hown := ((effect.keeps_eq args).failsItself v).of_run h
    exact StepError.kind_of_isOwn (hown e rfl)

/-- The first query fails, the second finds too little, the third settles the search; and a click on
what is not there fails for another reason than that. -/
theorem first_strategy_settles_third :
    let search := ((Search.of "details").css "textarea[").nth "input" 1 2 |>.fallback "textarea"
    let o : Oracle := ⟨fun n => fun
      | .query _ =>
        if n = 0 then .error ⟨.invalidSelector, none⟩
        else if n = 1 then .ok [⟨3, "input"⟩]
        else .ok [⟨5, "textarea"⟩, ⟨8, "textarea"⟩]
      | _ => .error ⟨.internal, none⟩, []⟩
    let s : Stage Oracle := ⟨o, 0, none⟩
    let found : Found := ⟨⟨5, "textarea"⟩, .fallback, "css=textarea", 2⟩
    let bare : Oracle := ⟨fun _ => fun
      | .query _ => .ok []
      | _ => .error ⟨.internal, none⟩, []⟩
    let args : Arguments := ⟨"click \"Buy\"", [none, some "Buy"]⟩
    let v : View := ⟨Settings.standard, Capture.empty CaptureLimits.standard, none, "oracle"⟩
    let missing : StepError := .elementMissing "clickable \"Buy\" (4 strategies exhausted)"
    (∃ n, Settles search.strategies o (some found) n) ∧
      search.require.run none s = (some (.ok found), s.later [.query (.css "textarea[" none),
        .query (.css "input" none), .query (.css "textarea" none)] 0) ∧
      (Procedure.run none ((Effect.act .clickText).script args v)
        (⟨bare, 0, none⟩ : Stage Oracle)).1 = some (.error missing) ∧ missing.kind ≠ "locator" := by
  intro search o s found bare args v missing
  obtain ⟨⟨r, n, hsettles, hresolve, hrequire⟩, -, hsteps⟩ := first_strategy_settles search none s
  have hfound : search.resolve.run none s = (some (.ok (some found)),
      s.later [.query (.css "textarea[" none), .query (.css "input" none),
        .query (.css "textarea" none)] 0) := rfl
  rw [hresolve] at hfound
  obtain ⟨hr, hcalls⟩ := Prod.mk.inj hfound
  obtain rfl : r = some found := by simpa using hr
  have hmissing : (Procedure.run none ((Effect.act .clickText).script args v)
      (⟨bare, 0, none⟩ : Stage Oracle)).1 = some (.error missing) := by
    decide +kernel
  refine ⟨⟨n, hsettles⟩, hrequire.trans ?_, hmissing, hsteps _ args v none _ _ hmissing⟩
  rw [hcalls]

end Search

end Walkthrough
