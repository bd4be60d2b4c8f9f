import Mathlib.Tactic.Common
import Walkthrough.Proofs.Walk.Script
import Walkthrough.Walk.Action.Filling

namespace Walkthrough.Script

variable {t : Terms} [ht : t.Handling]

theorem keeps_enter {Q : α → Prop} {f : Settings → String} {next : Settings → Script α} (h : Handle)
    (hf : ∀ v w : View, v.Alike t.credentials w → f v.settings = f w.settings)
    (hnext : ∀ v w : View, v.Alike t.credentials w → next v.settings = next w.settings)
    (hkeep : ∀ s, Keeps t Q (next s)) :
    Keeps t Q (settings >>= fun s => call (.fill h (f s)) >>= fun _ => next s) :=
  keeps_settings (fun v w ha => by rw [hf v w ha, hnext v w ha]) fun s =>
    .bind (keeps_fill h (f s)) fun _ _ => hkeep s

theorem keeps_fillField (field value : String) : Keeps t Outcome.Regular (fillField field value) :=
  .bind (keeps_require _) fun _ _ => .bind (keeps_fill _ _) fun _ _ => keeps_passed _

omit ht in
theorem keeps_given (fromLine configured : Option String) (what : String) :
    Keeps t (fun _ => True) (given fromLine configured what) := by
  unfold given
  split
  · exact .pure trivial
  · exact .throw _ trivial

theorem given_congr {fromLine x y : Option String} (h : fromLine = none → x = y) (what : String) :
    given fromLine x what = given fromLine y what := by
  cases fromLine with
  | none => rw [h rfl]
  | some value => rfl

theorem keeps_enterPhone {args : Arguments}
    (h : ∀ c d, t.credentials c d → args.get? 1 = none → c.phone = d.phone) :
    Keeps t Outcome.Regular (enterPhone args) := by
  refine keeps_settings (fun v w ha => ?_) fun s => ?_
  · rw [given_congr (h _ _ ha.credentials)]
  · refine .bind (keeps_given _ _ _) fun phone _ => .bind (keeps_require _) fun found _ => ?_
    exact .bind (keeps_fill _ _) fun _ _ => keeps_passed _

theorem keeps_chooseCountry (code : String) : Keeps t (fun _ => True) (chooseCountry code) := by
  refine keeps_found (.pure trivial) fun found => ?_
  refine keeps_clickAndSettle _ _ (keeps_found (.pure trivial) fun option => ?_)
  exact keeps_click _

theorem keeps_enterPhoneWithCountry {args : Arguments}
    (hcode : ∀ c d, t.credentials c d → args.get? 1 = none → c.countryCode = d.countryCode)
    (hphone : ∀ c d, t.credentials c d → args.get? 2 = none → c.phone = d.phone) :
    Keeps t Outcome.Regular (enterPhoneWithCountry args) := by
  refine keeps_settings (fun v w ha => ?_) fun s => ?_
  · dsimp only
    rw [given_congr (hcode _ _ ha.credentials), given_congr (hphone _ _ ha.credentials)]
  · refine .bind (keeps_given _ _ _) fun code _ => .bind (keeps_given _ _ _) fun phone _ => ?_
    refine .bind (keeps_chooseCountry code) fun _ _ => ?_
    exact keeps_found (keeps_warned _) fun _ => .bind (keeps_fill _ _) fun _ _ => keeps_passed _

theorem keeps_enterCountryCode (h : ∀ c d, t.credentials c d → c.countryCode = d.countryCode) :
    Keeps t (fun _ => True) enterCountryCode := by
  refine keeps_settings (fun v w ha => ?_) fun s => ?_
  · rw [h _ _ ha.credentials]
  · dsimp only
    split
    · exact .pure trivial
    · refine keeps_found (.pure trivial) fun found => ?_
      exact keeps_ite (keeps_fill _ _) (.pure trivial)

theorem keeps_login (hcode : ∀ c d, t.credentials c d → c.countryCode = d.countryCode)
    (hphone : ∀ c d, t.credentials c d → c.phone = d.phone) : Keeps t Outcome.Regular login := by
  refine keeps_settings (fun v w ha => ?_) fun s => ?_
  · dsimp only
    rw [hphone _ _ ha.credentials]
  · refine .bind (keeps_given _ _ _) fun phone _ => .bind (keeps_enterCountryCode hcode) fun _ _ => ?_
    refine .bind (keeps_settle _) fun _ _ => ?_
    exact keeps_found (keeps_warned _) fun _ => .bind (keeps_fill _ _) fun _ _ => keeps_passed _

theorem keeps_enterOtp {args : Arguments}
    (h : ∀ c d, t.credentials c d → args.get? 1 = none → c.otp = d.otp) :
    Keeps t Outcome.Regular (enterOtp args) := by
  refine keeps_settings (fun v w ha => ?_) fun s => ?_
  · rw [given_congr (h _ _ ha.credentials)]
  · refine .bind (keeps_given _ _ _) fun otp _ => .bind (keeps_require _) fun found _ => ?_
    exact .bind (keeps_fill _ _) fun _ _ => keeps_passed _

theorem keeps_verifyOtp (h : ∀ c d, t.credentials c d → c.otp = d.otp) :
    Keeps t Outcome.Regular verifyOtp := by
  refine keeps_settings (fun v w ha => ?_) fun s => ?_
  · rw [h _ _ ha.credentials]
  · split
    · refine keeps_found (keeps_warned _) fun found => ?_
      exact .bind (keeps_fill _ _) fun _ _ => keeps_clickIfFound _ _ _
    · exact keeps_warned _

theorem keeps_searchFor (args : Arguments) : Keeps t Outcome.Regular (searchFor args) := by
  refine .bind (keeps_require _) fun found _ => .bind (keeps_fill _ _) fun _ _ => ?_
  refine .bind (keeps_press _ _) fun _ _ => ?_
  exact .bind (keeps_settle _) fun _ _ => keeps_passed _

theorem keeps_filterByPrice : Keeps t Outcome.Regular filterByPrice := by
  refine keeps_found (keeps_warned _) fun found => keeps_enter _ ?_ ?_ fun s => ?_
  · intro v w ha
    rw [ha.testData]
  · intro v w ha
    rw [ha.testData]
  · exact .bind (keeps_settle _) fun _ _ => keeps_passed _

theorem keeps_submitInvalidEmail : Keeps t Outcome.Regular submitInvalidEmail := by
  refine keeps_found (keeps_warned _) fun found => keeps_enter _ ?_ ?_ fun s => ?_
  · intro v w ha
    rw [ha.testData]
  · exact fun _ _ _ => rfl
  · exact keeps_clickIfFound _ _ _

theorem keeps_enterDetails : Keeps t Outcome.Regular enterDetails := by
  refine keeps_found (keeps_warned _) fun found => keeps_enter _ ?_ ?_ fun s => ?_
  · intro v w ha
    rw [ha.testData]
  · exact fun _ _ _ => rfl
  · exact .bind (keeps_settle _) fun _ _ => keeps_passed _

theorem keeps_enterNegativePrice : Keeps t Outcome.Regular enterNegativePrice := by
  refine keeps_found (keeps_warned _) fun found => keeps_enter _ ?_ ?_ fun s => ?_
  · intro v w ha
    rw [ha.testData]
  · intro v w ha
    rw [ha.testData]
  · exact .bind (keeps_look trivial) fun _ _ => keeps_passed _

theorem keeps_submitComment : Keeps t Outcome.Regular submitComment := by
  refine keeps_found (keeps_warned _) fun found => keeps_enter _ ?_ ?_ fun s => ?_
  · intro v w ha
    rw [ha.testData]
  · exact fun _ _ _ => rfl
  · refine .bind (keeps_clickIfFound _ _ _) fun outcome hregular => .pure ?_
    split
    · exact Outcome.regular_warned _
    · exact hregular

end Walkthrough.Script
