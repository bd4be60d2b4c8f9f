import Mathlib.Tactic.Common
import Walkthrough.Proofs.Walk.Procedure
import Walkthrough.Proofs.Walk.Search

namespace Walkthrough

/-- Views that differ in the credentials at most as `R` allows, and in the deadline of the run. -/
structure View.Alike (R : Credentials → Credentials → Prop) (v w : View) : Prop where
  baseUrl : v.settings.baseUrl = w.settings.baseUrl
  credentials : R v.settings.credentials w.settings.credentials
  awaitText : v.settings.timeouts.awaitText = w.settings.timeouts.awaitText
  screenshots : v.settings.screenshots = w.settings.screenshots
  pacing : v.settings.pacing = w.settings.pacing
  testData : v.settings.testData = w.settings.testData
  capture : v.capture = w.capture
  last : v.last = w.last
  browserName : v.browserName = w.browserName

structure Terms where
  /-- Which credentials need not be told apart. -/
  credentials : Credentials → Credentials → Prop
  /-- Which calls may be made, other than to navigate. -/
  calls : Call → Prop
  rests : Prop
  visits : Prop

def Call.Looks : Call → Prop
  | currentUrl | query _ | text _ | attributeOf _ _ | inputValue _ => True
  | loadTiming | images | viewport => True
  | _ => False

/-- Terms that let a script look. -/
class Terms.Looking (t : Terms) : Prop where
  looks : ∀ c : Call, c.Looks → t.calls c

/-- Terms that let a script take pictures. -/
def Terms.pictures (t : Terms) : Prop :=
  ∀ path fullPage, t.calls (.screenshot path fullPage)

/-- Terms that let a script do anything but navigate and take pictures. -/
class Terms.Handling (t : Terms) : Prop where
  calls : ∀ c : Call, c.kind ≠ .navigate → c.kind ≠ .screenshot → t.calls c
  rests : t.rests

instance (t : Terms) [ht : t.Handling] : t.Looking where
  looks c hc := by
    refine ht.calls c (fun hk => ?_) fun hk => ?_ <;>
    · cases c <;> cases hk
      exact hc

/-- Terms that let a script do anything but navigate. -/
class Terms.Acting (t : Terms) : Prop where
  calls : ∀ c : Call, c.kind ≠ .navigate → t.calls c
  rests : t.rests

instance (t : Terms) [ht : t.Acting] : t.Handling :=
  ⟨fun c hc _ => ht.calls c hc, ht.rests⟩

theorem Terms.Acting.pictures {t : Terms} [ht : t.Acting] : t.pictures :=
  fun _ _ => ht.calls _ nofun

namespace Terms

/-- Everything may be done, and credentials are told apart as far as `R` tells them apart. -/
def acting (R : Credentials → Credentials → Prop) : Terms :=
  ⟨R, fun c => c.kind ≠ .navigate, True, True⟩

instance (R : Credentials → Credentials → Prop) : (acting R).Acting :=
  ⟨fun _ h => h, trivial⟩

def staying : Terms :=
  { acting Eq with visits := False }

instance : staying.Acting :=
  ⟨fun _ h => h, trivial⟩

def pictureless : Terms :=
  { acting Eq with calls := fun c => c.kind ≠ .navigate ∧ c.kind ≠ .screenshot }

instance : pictureless.Handling :=
  ⟨fun _ hn hp => ⟨hn, hp⟩, trivial⟩

/-- Nothing may be done but to look, whatever the credentials. -/
def looking : Terms :=
  ⟨fun _ _ => True, Call.Looks, False, False⟩

instance : looking.Looking :=
  ⟨fun _ h => h⟩

end Terms

/-- How a step ends that could be performed. -/
def Outcome.Regular (o : Outcome) : Prop :=
  o.status ∈ [.passed, .warned, .acknowledged, .heading]

@[simp] theorem Outcome.regular_passed (message : String) : (passed message).Regular := by
  simp [Regular, passed]

@[simp] theorem Outcome.regular_warned (message : String) : (warned message).Regular := by
  simp [Regular, warned]

/-- A failure that is not merely handed on from a search. -/
def StepError.IsOwn : StepError → Prop
  | search _ => False
  | _ => True

theorem Settings.isOwn_of_base {s : Settings} {e : StepError} (h : s.base = .error e) : e.IsOwn := by
  unfold base at h
  split at h
  · cases h
  · cases h
    trivial

theorem Settings.isOwn_of_homepage {s : Settings} {e : StepError} (h : s.homepage = .error e) :
    e.IsOwn := by
  unfold homepage at h
  cases hbase : s.base with
  | ok u =>
    rw [hbase] at h
    cases h
  | error e' =>
    rw [hbase] at h
    cases h
    exact isOwn_of_base hbase

theorem Settings.isOwn_of_resolve {s : Settings} {target : String} {e : StepError}
    (h : s.resolve target = .error e) : e.IsOwn := by
  unfold resolve at h
  split at h
  · cases h
  · cases hbase : s.base with
    | error e' =>
      rw [hbase] at h
      cases h
      exact isOwn_of_base hbase
    | ok base =>
      rw [hbase] at h
      dsimp only [bind, Except.bind] at h
      cases hjoin : base.join target with
      | ok u =>
        rw [hjoin] at h
        cases h
      | error e' =>
        rw [hjoin] at h
        cases h
        trivial

namespace Script

/-- Scripts made of parts that keep to terms, and whose results satisfy a predicate. -/
inductive Keeps (t : Terms) : {α : Type} → (α → Prop) → Script α → Prop
  | pure {Q : α → Prop} {a : α} (h : Q a) : Keeps t Q (pure a)
  | throw {Q : α → Prop} (e : StepError) (h : e.IsOwn) : Keeps t Q (throw e)
  | lift {p : Procedure α} (h : p.Within t.calls t.rests) : Keeps t (fun _ => True) (lift p)
  | navigate (h : t.visits) (target : String) : Keeps t (fun _ => True) (navigate target)
  | attempt {P : α → Prop} {m : Script α} (h : Keeps t P m) : Keeps t (fun _ => True) (attempt m)
  | view {Q : β → Prop} (g : View → α) {f : α → Script β}
      (h : ∀ v w : View, v.Alike t.credentials w → f (g v) = f (g w)) (hf : ∀ a, Keeps t Q (f a)) :
      Keeps t Q ((fun v => Pure.pure (g v)) >>= f)
  | bind {P : α → Prop} {Q : β → Prop} {m : Script α} {f : α → Script β} (hm : Keeps t P m)
      (hf : ∀ a, P a → Keeps t Q (f a)) : Keeps t Q (m >>= f)

theorem bind_apply (m : Script α) (f : α → Script β) (v : View) :
    (m >>= f) v = Procedure.bind (m v) fun
      | .ok a => f a v
      | .error e => .done (.error e) := by
  refine congrArg (Procedure.bind (m v)) (funext fun r => ?_)
  cases r <;> rfl

theorem discard_eq (m : Script α) : discard m = m >>= fun _ => pure () := by
  funext v
  refine congrArg (Procedure.bind (m v)) (funext fun r => ?_)
  cases r <;> rfl

theorem run_lift_bind [Host σ] {p : Procedure α} {d : Option Nat} {s after : Stage σ} {a : α}
    (h : p.run d s = (some a, after)) (f : α → Script β) (v : View) :
    Procedure.run d ((lift p >>= f) v) s = Procedure.run d (f a v) after := by
  rw [bind_apply]
  show Procedure.run d ((p.bind _).bind _) s = _
  rw [Procedure.bind_assoc, Procedure.run_bind, h]
  rfl

theorem run_bind_of_ok [Host σ] {m : Script α} {v : View} {d : Option Nat} {s after : Stage σ}
    {a : α} (h : Procedure.run d (m v) s = (some (.ok a), after)) (f : α → Script β) :
    Procedure.run d ((m >>= f) v) s = Procedure.run d (f a v) after := by
  rw [bind_apply, Procedure.run_bind, h]

theorem run_call_of_ok [Host σ] {c : Call} {s : Stage σ} {a : c.Answer} {host : σ}
    (h : Host.respond c s.host = (.ok a, host)) (v : View) (d : Option Nat) :
    Procedure.run d (call c v) s = (some (.ok a), { s with host := host }) := by
  have hask : Procedure.run d (ask c v) s =
      (some (.ok (Host.respond c s.host).1), { s with host := (Host.respond c s.host).2 }) := rfl
  rw [h] at hask
  exact run_bind_of_ok hask _

theorem settings_bind (f : Settings → Script α) (v : View) :
    (settings >>= f) v = f v.settings v := rfl

/-- What holds of the result of a script that does not fail. -/
def IfOk (P : α → Prop) : Except StepError α → Prop
  | .ok a => P a
  | .error _ => True

/-- In the end a script fails or has a result that satisfies `P`. -/
def Yields (P : α → Prop) (m : Script α) (v : View) : Prop :=
  Procedure.Ends (IfOk P) (m v)

theorem yields_true (m : Script α) (v : View) : Yields (fun _ => True) m v :=
  (Procedure.ends_true (m v)).imp fun r _ => by cases r <;> trivial

theorem Yields.bind {P : α → Prop} {Q : β → Prop} {m : Script α} {f : α → Script β} {v : View}
    (hm : Yields P m v) (hf : ∀ a, P a → Yields Q (f a) v) : Yields Q (m >>= f) v := by
  unfold Yields
  rw [bind_apply, Procedure.ends_bind]
  apply hm.imp
  intro r hr
  cases r with
  | ok a => exact hf a hr
  | error e => trivial

/-- In the end a script has a result or a failure that satisfies `P`. -/
def FailsWith (P : StepError → Prop) (m : Script α) (v : View) : Prop :=
  Procedure.Ends (fun r => ∀ e, r = .error e → P e) (m v)

theorem failsWith_pure {P : StepError → Prop} (a : α) (v : View) : FailsWith P (pure a) v :=
  fun _ h => nomatch h

theorem failsWith_throw {P : StepError → Prop} {e : StepError} (h : P e) (v : View) :
    FailsWith P (throw e : Script α) v := by
  intro e' he
  cases he
  exact h

theorem failsWith_lift {P : StepError → Prop} (p : Procedure α) (v : View) :
    FailsWith P (lift p) v :=
  (p.ends_bind _).mpr (p.ends_true.imp fun _ _ _ h => nomatch h)

theorem failsWith_attempt {P : StepError → Prop} (m : Script α) (v : View) :
    FailsWith P (attempt m) v := by
  show Procedure.Ends _ (Procedure.bind (m v) _)
  rw [Procedure.ends_bind]
  exact (Procedure.ends_true _).imp fun _ _ _ h => nomatch h

theorem FailsWith.bind {Q : StepError → Prop} {P : α → Prop} {m : Script α} {f : α → Script β}
    {v : View} (hm : FailsWith Q m v) (hP : Yields P m v) (hf : ∀ a, P a → FailsWith Q (f a) v) :
    FailsWith Q (m >>= f) v := by
  unfold FailsWith
  rw [bind_apply, Procedure.ends_bind]
  apply (Procedure.Ends.and hm hP).imp
  intro r hr
  cases r with
  | ok a => exact hf a hr.2
  | error e =>
    intro e' he
    cases he
    exact hr.1 e rfl

theorem bind_congr {P : α → Prop} {m : Script α} {f : α → Script β} {v w : View}
    (hP : Yields P m v) (hm : m v = m w) (hf : ∀ a, P a → f a v = f a w) :
    (m >>= f) v = (m >>= f) w := by
  rw [bind_apply, bind_apply, ← hm]
  apply Procedure.bind_congr hP
  intro r hr
  cases r with
  | ok a => exact hf a hr
  | error e => rfl

theorem navigate_congr {v w : View} (h : v.settings.baseUrl = w.settings.baseUrl) (target : String) :
    navigate target v = navigate target w := by
  have hresolve : v.settings.resolve target = w.settings.resolve target := by
    unfold Settings.resolve Settings.base
    rw [h]
  unfold navigate
  rw [settings_bind, settings_bind, hresolve]
  refine bind_congr (yields_true _ _) (by cases w.settings.resolve target <;> rfl) fun url _ => ?_
  refine bind_congr (yields_true _ _) rfl fun answer _ => ?_
  cases answer with
  | ok visit => rfl
  | error e =>
    dsimp only
    split <;> rfl

variable {t : Terms}

theorem Keeps.yields {Q : α → Prop} {m : Script α} (hm : Keeps t Q m) (v : View) :
    Yields Q m v := by
  induction hm with
  | pure h => exact h
  | throw e => trivial
  | lift | navigate | attempt => exact yields_true _ v
  | view g _ _ ih => exact ih (g v)
  | bind _ _ ihm ihf => exact ihm.bind ihf

/-- Views that are alike lead to the same procedure. -/
theorem Keeps.eq_of_alike {Q : α → Prop} {m : Script α} (hm : Keeps t Q m) {v w : View}
    (h : v.Alike t.credentials w) : m v = m w := by
  induction hm with
  | pure | throw | lift => rfl
  | navigate _ target => exact navigate_congr h.baseUrl target
  | attempt _ ih => exact congrArg (fun p => Procedure.bind p _) ih
  | view g hg _ ih =>
    refine Eq.trans (ih (g v)) ?_
    exact congrFun (hg v w h) w
  | bind hm _ ihm ihf => exact bind_congr (hm.yields v) ihm ihf

theorem Keeps.within {Q : α → Prop} {m : Script α} (hm : Keeps t Q m) (hv : ¬ t.visits) (v : View) :
    Procedure.Within t.calls t.rests (m v) := by
  induction hm with
  | pure | throw => trivial
  | lift h => exact Procedure.within_bind h (Procedure.ends_true _) fun _ _ => trivial
  | navigate h => exact absurd h hv
  | attempt _ ih => exact Procedure.within_bind ih (Procedure.ends_true _) fun _ _ => trivial
  | view g _ _ ih => exact ih (g v)
  | bind hm _ ihm ihf =>
    rw [bind_apply]
    apply Procedure.within_bind ihm (hm.yields v)
    intro r hr
    cases r with
    | ok a => exact ihf a hr
    | error e => trivial

theorem keeps_passed (message : String) : Keeps t Outcome.Regular (pure (.passed message)) :=
  .pure (Outcome.regular_passed message)

theorem keeps_warned (message : String) : Keeps t Outcome.Regular (pure (.warned message)) :=
  .pure (Outcome.regular_warned message)

theorem keeps_ite {Q : α → Prop} {c : Prop} [Decidable c] {m n : Script α} (hm : Keeps t Q m)
    (hn : Keeps t Q n) : Keeps t Q (if c then m else n) := by
  split
  · exact hm
  · exact hn

theorem keeps_settings {Q : α → Prop} {f : Settings → Script α}
    (h : ∀ v w : View, v.Alike t.credentials w → f v.settings = f w.settings)
    (hf : ∀ s, Keeps t Q (f s)) : Keeps t Q (settings >>= f) :=
  .view (·.settings) h hf

theorem keeps_read {Q : α → Prop} {f : View → Script α}
    (h : ∀ v w : View, v.Alike t.credentials w → f v = f w) (hf : ∀ v, Keeps t Q (f v)) :
    Keeps t Q (read >>= f) :=
  .view id h hf

theorem keeps_ofExcept {r : Except StepError α} (h : ∀ {e}, r = .error e → e.IsOwn) :
    Keeps t (fun _ => True) (ofExcept r) := by
  cases r with
  | ok a => exact .pure trivial
  | error e => exact .throw e (h rfl)

theorem keeps_ask {c : Call} (h : t.calls c) : Keeps t (fun _ => True) (ask c) :=
  .lift ⟨h, fun _ => trivial⟩

theorem keeps_call {c : Call} (h : t.calls c) : Keeps t (fun _ => True) (call c) := by
  refine .bind (keeps_ask h) fun r _ => ?_
  cases r with
  | ok answer => exact .pure trivial
  | error e => exact .throw _ trivial

theorem keeps_discard {P : α → Prop} {m : Script α} (h : Keeps t P m) :
    Keeps t (fun _ => True) (discard m) :=
  discard_eq m ▸ .bind h fun _ _ => .pure trivial

theorem keeps_mapM {P : β → Prop} {f : α → Script β} (hf : ∀ a, Keeps t P (f a)) (l : List α) :
    Keeps t (fun _ => True) (l.mapM f) := by
  induction l with
  | nil => exact .pure trivial
  | cons a l ih =>
    rw [List.mapM_cons]
    exact .bind (hf a) fun _ _ => .bind ih fun _ _ => .pure trivial

section Looking

variable [ht : t.Looking]

theorem within_look (s : Strategy) : s.look.Within t.calls t.rests := by
  refine ⟨ht.looks _ trivial, fun answer => ?_⟩
  cases answer <;> trivial

theorem within_settle (l : List Strategy) : (Search.settle l).Within t.calls t.rests := by
  induction l with
  | nil => trivial
  | cons s rest ih =>
    apply Procedure.within_bind (within_look s) (Procedure.ends_true _)
    intro found _
    obtain e | _ | _ := found
    · exact ih
    · exact ih
    · trivial

theorem keeps_locate (s : Search) : Keeps t (fun _ => True) (locate s) :=
  locate_eq s ▸ .lift (within_settle s.strategies)

theorem keeps_found {Q : α → Prop} {f : Option Found → Script α} {s : Search}
    (hnone : Keeps t Q (f none)) (hsome : ∀ found, Keeps t Q (f (some found))) :
    Keeps t Q (locate s >>= f) := by
  refine .bind (keeps_locate s) fun r _ => ?_
  cases r with
  | none => exact hnone
  | some found => exact hsome found

theorem keeps_require (s : Search) : Keeps t (fun _ => True) (require s) :=
  require_eq s ▸ keeps_found (.throw _ trivial) fun _ => .pure trivial

theorem keeps_look {c : Call} (h : c.Looks) : Keeps t (fun _ => True) (call c) :=
  keeps_call (ht.looks c h)

theorem keeps_count (selector : String) : Keeps t (fun _ => True) (count selector) :=
  .bind (keeps_look trivial) fun _ _ => .pure trivial

theorem keeps_firstText (s : Search) : Keeps t (fun _ => True) (firstText s) :=
  keeps_found (.pure trivial) fun _ =>
    .bind (keeps_look trivial) fun _ _ => .pure trivial

theorem keeps_text {Q : α → Prop} {f : Option String → Script α} {s : Search}
    (hnone : Keeps t Q (f none)) (hsome : ∀ text, Keeps t Q (f (some text))) :
    Keeps t Q (firstText s >>= f) := by
  refine .bind (keeps_firstText s) fun r _ => ?_
  cases r with
  | none => exact hnone
  | some text => exact hsome text

end Looking

section Handling

variable [ht : t.Handling]

theorem keeps_sleep (ms : Nat) : Keeps t (fun _ => True) (sleep ms) :=
  .lift ⟨ht.rests, trivial⟩

theorem keeps_settle (ms : Nat) : Keeps t (fun _ => True) (settle ms) := by
  refine keeps_settings (fun v w h => ?_) fun s => ?_
  · have hpause : v.settings.pause ms = w.settings.pause ms := by
      unfold Settings.pause
      rw [h.pacing]
    dsimp only
    rw [hpause]
  · exact keeps_ite (keeps_sleep _) (.pure trivial)

theorem keeps_click (h : Handle) : Keeps t (fun _ => True) (call (.click h)) :=
  keeps_call (ht.calls _ nofun nofun)

theorem keeps_fill (h : Handle) (value : String) : Keeps t (fun _ => True) (call (.fill h value)) :=
  keeps_call (ht.calls _ nofun nofun)

theorem keeps_press (h : Handle) (key : String) : Keeps t (fun _ => True) (call (.press h key)) :=
  keeps_call (ht.calls _ nofun nofun)

theorem keeps_clickAndSettle {Q : α → Prop} {next : Script α} (h : Handle) (ms : Nat)
    (hnext : Keeps t Q next) :
    Keeps t Q (call (.click h) >>= fun _ => settle ms >>= fun _ => next) :=
  .bind (keeps_click h) fun _ _ => .bind (keeps_settle ms) fun _ _ => hnext

theorem keeps_clickIfFound (s : Search) (ms : Nat) (done : String) :
    Keeps t Outcome.Regular (clickIfFound s ms done) :=
  keeps_found (keeps_warned _) fun _ => keeps_clickAndSettle _ ms (keeps_passed done)

end Handling

end Script

end Walkthrough
