import Walkthrough.Configuration

namespace Walkthrough

/-- Variables that are not blank win over others. -/
def Variables.atop (w v : Variables) : Variables := fun name =>
  (w.given? name).or (v name)

theorem Variables.given?_atop (w v : Variables) (name : String) :
    (w.atop v).given? name = (w.given? name).or (v.given? name) := by
  cases h : w.given? name with
  | none =>
    have hatop : w.atop v name = v name := by rw [atop, h, Option.none_or]
    rw [given?, hatop, Option.none_or]
    rfl
  | some text =>
    have hatop : w.atop v name = some text := by rw [atop, h, Option.some_or]
    rw [given?, hatop, Option.some_or, Option.filter_some, if_pos (Option.filter_eq_some_iff.mp h).2]

namespace Configuration

namespace Overridable

def value : (o : Overridable) → Configuration → o.Value
  | baseUrl, c => c.baseUrl
  | headless, c => c.browser.headless
  | executable, c => c.browser.executable
  | phone, c => c.login.phone
  | countryCode, c => c.login.countryCode
  | otp, c => c.login.otp

theorem mem_all (o : Overridable) : o ∈ all := by
  cases o <;> decide

@[simp] theorem value_set (o : Overridable) (x : o.Value) (c : Configuration) :
    o.value (o.set x c) = x := by
  cases o <;> rfl

theorem value_set_of_ne {o p : Overridable} (h : p ≠ o) (x : o.Value) (c : Configuration) :
    p.value (o.set x c) = p.value c := by
  cases o <;> cases p <;> first | rfl | exact absurd rfl h

@[simp] theorem set_value (o : Overridable) (c : Configuration) : o.set (o.value c) c = c := by
  cases o <;> rfl

/-- What a part is to be: what the variable says, or else what it is. -/
def settled (v : Variables) (o : Overridable) (c : Configuration) : Except OverrideError o.Value :=
  match v.given? o.name with
  | none => .ok (o.value c)
  | some raw => o.read raw

variable {v w : Variables} {o : Overridable} {c d : Configuration}

theorem settled_of_none (h : v.given? o.name = none) : o.settled v c = .ok (o.value c) := by
  simp only [settled, h]

theorem settled_of_some {raw : String} (h : v.given? o.name = some raw) :
    o.settled v c = o.read raw := by
  simp only [settled, h]

theorem settled_congr (h : o.value c = o.value d) : o.settled v c = o.settled v d := by
  unfold settled
  rw [h]

/-- Only a URL can be wrong. -/
theorem exists_settled (h : o ≠ baseUrl) (v : Variables) (c : Configuration) :
    ∃ x, o.settled v c = .ok x := by
  cases hgiven : v.given? o.name with
  | none => exact ⟨_, settled_of_none hgiven⟩
  | some raw =>
    rw [settled_of_some hgiven]
    cases o with
    | baseUrl => exact absurd rfl h
    | headless | executable | phone | countryCode | otp => exact ⟨_, rfl⟩

theorem run_override (v : Variables) (o : Overridable) (c : Configuration) :
    (o.override v).run c = match o.settled v c with
      | .ok x => (.ok (), o.set x c)
      | .error e => (.error e, c) := by
  unfold override
  cases hgiven : v.given? o.name with
  | none =>
    rw [settled_of_none hgiven]
    simp only [set_value]
    rfl
  | some raw =>
    rw [settled_of_some hgiven]
    dsimp only
    cases o.read raw <;> rfl

end Overridable

/-- What no variable overrides is the same. -/
structure SameRest (c d : Configuration) : Prop where
  windowWidth : d.browser.windowWidth = c.browser.windowWidth
  windowHeight : d.browser.windowHeight = c.browser.windowHeight
  timeouts : d.timeouts = c.timeouts
  pacing : d.pacing = c.pacing
  screenshots : d.screenshots = c.screenshots
  stepFile : d.stepFile = c.stepFile
  testData : d.testData = c.testData

namespace SameRest

variable {c d e : Configuration}

theorem refl (c : Configuration) : SameRest c c :=
  ⟨rfl, rfl, rfl, rfl, rfl, rfl, rfl⟩

theorem trans (h : SameRest c d) (k : SameRest d e) : SameRest c e where
  windowWidth := k.windowWidth.trans h.windowWidth
  windowHeight := k.windowHeight.trans h.windowHeight
  timeouts := k.timeouts.trans h.timeouts
  pacing := k.pacing.trans h.pacing
  screenshots := k.screenshots.trans h.screenshots
  stepFile := k.stepFile.trans h.stepFile
  testData := k.testData.trans h.testData

theorem set_iff {o : Overridable} {x : o.Value} : SameRest (o.set x c) d ↔ SameRest c d := by
  cases o <;> exact ⟨fun ⟨h₁, h₂, h₃, h₄, h₅, h₆, h₇⟩ => ⟨h₁, h₂, h₃, h₄, h₅, h₆, h₇⟩,
    fun ⟨h₁, h₂, h₃, h₄, h₅, h₆, h₇⟩ => ⟨h₁, h₂, h₃, h₄, h₅, h₆, h₇⟩⟩

theorem eq_of_values (h : SameRest c d) (hvalue : ∀ o : Overridable, o.value d = o.value c) :
    d = c := by
  obtain ⟨url, ⟨code, phone, otp⟩, ⟨headless, path, width, height⟩, times, pace, dir, file, data⟩ := c
  obtain ⟨url', ⟨code', phone', otp'⟩, ⟨headless', path', width', height'⟩, times', pace', dir',
    file', data'⟩ := d
  obtain ⟨rfl, rfl, rfl, rfl, rfl, rfl, rfl⟩ := h
  obtain rfl : url' = url := hvalue .baseUrl
  obtain rfl : headless' = headless := hvalue .headless
  obtain rfl : path' = path := hvalue .executable
  obtain rfl : phone' = phone := hvalue .phone
  obtain rfl : code' = code := hvalue .countryCode
  obtain rfl : otp' = otp := hvalue .otp
  rfl

end SameRest

/-- What overriding comes to, part by part. -/
structure Overrides (v : Variables) (c d : Configuration) : Prop where
  settled : ∀ o : Overridable, o.settled v c = .ok (o.value d)
  rest : SameRest c d

theorem run_override_cons (v : Variables) (o : Overridable) (os : List Overridable)
    (c : Configuration) :
    ((o :: os).forM (Overridable.override v)).run c = match o.settled v c with
      | .ok x => (os.forM (Overridable.override v)).run (o.set x c)
      | .error e => (.error e, c) := by
  show (o.override v >>= fun _ => os.forM (Overridable.override v)).run c = _
  rw [ExceptT.run_bind]
  show StateT.run (ExceptT.run (o.override v) >>= _) c = _
  rw [StateT.run_bind]
  show (bind (m := Id) ((o.override v).run c) _) = _
  rw [Overridable.run_override]
  cases o.settled v c <;> rfl

theorem run_override_list_iff {os : List Overridable} (hnodup : os.Nodup) {v : Variables}
    {c d : Configuration} :
    (os.forM (Overridable.override v)).run c = (.ok (), d) ↔
      (∀ o ∈ os, o.settled v c = .ok (o.value d)) ∧ (∀ o ∉ os, o.value d = o.value c) ∧
        SameRest c d := by
  induction os generalizing c with
  | nil =>
    have hrun : (([] : List Overridable).forM (Overridable.override v)).run c = (.ok (), c) := rfl
    rw [hrun, Prod.mk.injEq]
    constructor
    · rintro ⟨-, rfl⟩
      exact ⟨nofun, fun _ _ => rfl, .refl _⟩
    · rintro ⟨-, hvalue, hrest⟩
      exact ⟨rfl, (hrest.eq_of_values fun o => hvalue o List.not_mem_nil).symm⟩
  | cons o os ih =>
    obtain ⟨ho, hnodup⟩ := List.nodup_cons.mp hnodup
    rw [run_override_cons]
    cases hsettled : o.settled v c with
    | error e =>
      refine iff_of_false nofun fun h => ?_
      have hok := h.1 o List.mem_cons_self
      rw [hsettled] at hok
      contradiction
    | ok x =>
      dsimp only
      rw [ih hnodup, SameRest.set_iff]
      -- what is set here is not seen by the parts that follow
      have hother {p : Overridable} (hp : p ≠ o) : p.value (o.set x c) = p.value c :=
        Overridable.value_set_of_ne hp x c
      constructor
      · rintro ⟨hin, hout, hrest⟩
        have hvalue : o.value d = x := (hout o ho).trans (o.value_set x c)
        refine ⟨fun p hp => ?_, fun p hp => ?_, hrest⟩
        · obtain rfl | hp := List.mem_cons.mp hp
          · rw [hsettled, hvalue]
          · have hne : p ≠ o := fun h => ho (h ▸ hp)
            rw [← Overridable.settled_congr (hother hne)]
            exact hin p hp
        · obtain ⟨hne, hp⟩ := not_or.mp (mt List.mem_cons.mpr hp)
          exact (hout p hp).trans (hother hne)
      · rintro ⟨hin, hout, hrest⟩
        have hvalue : x = o.value d :=
          Except.ok.inj (hsettled.symm.trans (hin o List.mem_cons_self))
        refine ⟨fun p hp => ?_, fun p hp => ?_, hrest⟩
        · have hne : p ≠ o := fun h => ho (h ▸ hp)
          rw [Overridable.settled_congr (hother hne)]
          exact hin p (List.mem_cons_of_mem o hp)
        · by_cases hne : p = o
          · subst hne
            rw [Overridable.value_set, hvalue]
          · rw [hother hne]
            exact hout p (mt List.mem_cons.mp (not_or.mpr ⟨hne, hp⟩))

variable {v w : Variables} {c d e : Configuration}

theorem run_override_iff : (override v).run c = (.ok (), d) ↔ Overrides v c d := by
  have hnodup : Overridable.all.Nodup := by decide
  unfold override
  rw [run_override_list_iff hnodup]
  constructor
  · rintro ⟨hsettled, -, hrest⟩
    exact ⟨fun o => hsettled o o.mem_all, hrest⟩
  · rintro ⟨hsettled, hrest⟩
    exact ⟨fun o _ => hsettled o, fun o ho => absurd o.mem_all ho, hrest⟩

/-- What comes after the URL cannot fail. -/
theorem exists_run_override {os : List Overridable} (h : .baseUrl ∉ os) (v : Variables)
    (c : Configuration) : ∃ d, (os.forM (Overridable.override v)).run c = (.ok (), d) := by
  induction os generalizing c with
  | nil => exact ⟨c, rfl⟩
  | cons o os ih =>
    obtain ⟨hne, h⟩ := not_or.mp (mt List.mem_cons.mpr h)
    obtain ⟨x, hx⟩ := Overridable.exists_settled (Ne.symm hne) v c
    rw [run_override_cons, hx]
    exact ih h _

theorem eq_of_run_error {e : OverrideError} (h : (override v).run c = (.error e, d)) : d = c := by
  unfold override Overridable.all at h
  rw [run_override_cons] at h
  cases hurl : Overridable.baseUrl.settled v c with
  | error cause =>
    rw [hurl] at h
    exact (congrArg Prod.snd h).symm
  | ok url =>
    -- the URL is the first part, and nothing fails after it
    have hurlOnly : .baseUrl ∉ Overridable.all.tail := by decide
    obtain ⟨d', hrun⟩ := exists_run_override hurlOnly v (Overridable.baseUrl.set url c)
    have hfails : (Overridable.all.tail.forM (Overridable.override v)).run
        (Overridable.baseUrl.set url c) = (.error e, d) := by
      rw [hurl] at h
      exact h
    exact nomatch (congrArg Prod.fst (hrun.symm.trans hfails))

theorem Overrides.idem (h : Overrides v c d) : Overrides v d d := by
  refine ⟨fun o => ?_, .refl d⟩
  cases hgiven : v.given? o.name with
  | none => exact Overridable.settled_of_none hgiven
  | some raw =>
    have hread := h.settled o
    rw [Overridable.settled_of_some hgiven] at hread ⊢
    exact hread

theorem Overrides.trans (h : Overrides v c d) (k : Overrides w d e) : Overrides (w.atop v) c e := by
  refine ⟨fun o => ?_, h.rest.trans k.rest⟩
  have hgiven := w.given?_atop v o.name
  have hk := k.settled o
  -- the last variables decide where they say something, and see the first ones' result elsewhere
  cases hw : w.given? o.name with
  | some raw =>
    rw [hw, Option.some_or] at hgiven
    rw [Overridable.settled_of_some hw] at hk
    rw [Overridable.settled_of_some hgiven, hk]
  | none =>
    rw [hw, Option.none_or] at hgiven
    rw [Overridable.settled_of_none hw, Except.ok.injEq] at hk
    rw [← hk, ← h.settled o]
    unfold Overridable.settled
    rw [hgiven]

theorem overridden_eq_ok_iff : overridden v c = .ok d ↔ Overrides v c d := by
  rw [← run_override_iff]
  unfold overridden
  obtain ⟨r, d'⟩ := (override v).run c
  cases r with
  | ok u => exact ⟨fun h => by rw [Except.ok.inj h], fun h => by rw [(Prod.mk.inj h).2]⟩
  | error e => exact ⟨nofun, nofun⟩

/-- Where a variable is wrong, the configuration stays as it is. Otherwise to override it once more
changes nothing; a part whose variable is missing or blank stays as it is, any other is what its own
variable says, whatever the configuration and the other variables are; nothing else changes; and
further variables come to the same as both at once, where they win unless they are blank. -/
theorem override_atomic_confined (v : Variables) (c : Configuration) :
    (∀ e d, (override v).run c = (.error e, d) → d = c) ∧
    ∀ d, (override v).run c = (.ok (), d) →
      (override v).run d = (.ok (), d) ∧
      (∀ o : Overridable, (∀ text ∈ v o.name, Text.isBlankText text = true) →
        o.value d = o.value c) ∧
      (∀ (o : Overridable) (text : String), v o.name = some text → Text.isBlankText text = false →
        o.read text = .ok (o.value d)) ∧
      SameRest c d ∧
      ∀ w d', (override w).run d = (.ok (), d') → (override (w.atop v)).run c = (.ok (), d') := by
  refine ⟨fun e d => eq_of_run_error, fun d hd => ?_⟩
  have hall := run_override_iff.mp hd
  refine ⟨run_override_iff.mpr hall.idem, fun o hblank => ?_, fun o text htext hgiven => ?_,
    hall.rest, fun w d' hd' => ?_⟩
  · have hnone : v.given? o.name = none := by
      refine Option.filter_eq_none_iff.mpr fun text htext => ?_
      simp [hblank text htext]
    have hsettled := hall.settled o
    rw [Overridable.settled_of_none hnone] at hsettled
    exact (Except.ok.inj hsettled).symm
  · have hsome : v.given? o.name = some text := by
      unfold Variables.given?
      rw [htext, Option.filter_some, hgiven]
      rfl
    rw [← hall.settled o, Overridable.settled_of_some hsome]
  · exact run_override_iff.mpr (hall.trans (run_override_iff.mp hd'))

theorem run_of_isOk (h : ((override v).run c).1.isOk = true) :
    (override v).run c = (.ok (), ((override v).run c).2) := by
  generalize (override v).run c = p at h ⊢
  obtain ⟨r, d⟩ := p
  cases r with
  | ok u => rfl
  | error e => exact absurd h Bool.false_ne_true

/-- A shop under test: one set of variables that is taken, one more on top of it, and one that is
wrong. -/
theorem override_atomic_confined_staging :
    let c := { standard with login := { Credentials.none with phone := some "5550100" } }
    let v := Environment.toVariables [("STEPDRIVER_BASE_URL", " https://staging.test/"),
      ("STEPDRIVER_HEADLESS", "off"), ("STEPDRIVER_OTP", "111222"), ("STEPDRIVER_PHONE", "  ")]
    let w := Environment.toVariables [("STEPDRIVER_OTP", "333444"), ("STEPDRIVER_CHROME", "")]
    let wrong := Environment.toVariables [("STEPDRIVER_BASE_URL", "not a url"),
      ("STEPDRIVER_OTP", "333444")]
    (∃ e, (override wrong).run c = (.error e, c)) ∧
    ∃ d d', (override v).run c = (.ok (), d) ∧ (override v).run d = (.ok (), d) ∧
      d.login.phone = some "5550100" ∧ d.login.otp = some "111222" ∧ SameRest c d ∧
      (override w).run d = (.ok (), d') ∧ (override (w.atop v)).run c = (.ok (), d') := by
  intro c v w wrong
  constructor
  · obtain ⟨hno, -⟩ := override_atomic_confined wrong c
    have hfails : ((override wrong).run c).1.isOk = false := by decide +kernel
    cases hrun : (override wrong).run c with
    | mk r d =>
      cases r with
      | ok u => simp [hrun, Except.isOk, Except.toBool] at hfails
      | error e => exact ⟨e, by rw [hno e d hrun]⟩
  · have hrun := run_of_isOk (v := v) (c := c) (by decide +kernel)
    obtain ⟨hidem, hblank, hgiven, hrest, hboth⟩ := (override_atomic_confined v c).2 _ hrun
    have hrun' := run_of_isOk (v := w) (c := ((override v).run c).2) (by decide +kernel)
    refine ⟨_, _, hrun, hidem, hblank .phone ?_, ?_, hrest, hrun', hboth w _ hrun'⟩
    · have hphone : v (Overridable.name .phone) = some "  " := by decide +kernel
      intro text htext
      rw [hphone] at htext
      obtain rfl := Option.some.inj htext
      decide
    · have hotp : v (Overridable.name .otp) = some "111222" := by decide +kernel
      exact (Except.ok.inj (hgiven .otp "111222" hotp (by decide))).symm

end Configuration

end Walkthrough
