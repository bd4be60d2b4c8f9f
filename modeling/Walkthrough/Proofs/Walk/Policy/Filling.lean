import Walkthrough.Proofs.Walk.Policy.Elements
import Walkthrough.Walk.Action.Filling

namespace Walkthrough.Script

variable {kinds : List String} {P : Browser → Prop}

theorem only_fillField (hk : "required_element_missing" ∈ kinds) (field value : String) :
    FailsOnly kinds P (fillField field value) :=
  only_require hk fun _ => only_fill (only_pure _)

theorem only_given (hk : "missing_configuration" ∈ kinds) (fromLine configured : Option String)
    (what : String) : FailsOnly kinds P (given fromLine configured what) := by
  unfold given
  split
  · exact only_pure _
  · exact only_throw hk

theorem only_enterPhone (hc : "missing_configuration" ∈ kinds)
    (hk : "required_element_missing" ∈ kinds) (args : Arguments) :
    FailsOnly kinds P (enterPhone args) := by
  refine only_settings fun s => (only_given hc _ _ _).bind fun phone => ?_
  exact only_require hk fun _ => only_fill (only_pure _)

theorem only_chooseCountry (code : String) : FailsOnly kinds P (chooseCountry code) := by
  refine only_found (only_pure _) fun found => only_clickAndSettle ?_
  exact only_found (only_pure _) fun option => meets_click

theorem only_enterPhoneWithCountry (hc : "missing_configuration" ∈ kinds) (args : Arguments) :
    FailsOnly kinds P (enterPhoneWithCountry args) := by
  refine only_settings fun s => (only_given hc _ _ _).bind fun code => ?_
  refine (only_given hc _ _ _).bind fun phone => (only_chooseCountry code).bind fun _ => ?_
  exact only_found (only_pure _) fun _ => only_fill (only_pure _)

theorem only_enterCountryCode : FailsOnly kinds P enterCountryCode := by
  refine only_settings fun s => ?_
  split
  · exact only_pure _
  · exact only_found (only_pure _) fun found => only_ite (meets_fill _).only (only_pure _)

theorem only_login (hc : "missing_configuration" ∈ kinds) : FailsOnly kinds P login := by
  refine only_settings fun s => (only_given hc _ _ _).bind fun phone => ?_
  refine only_enterCountryCode.bind fun _ => only_settle ?_
  exact only_found (only_pure _) fun _ => only_fill (only_pure _)

theorem only_enterOtp (hc : "missing_configuration" ∈ kinds)
    (hk : "required_element_missing" ∈ kinds) (args : Arguments) :
    FailsOnly kinds P (enterOtp args) := by
  refine only_settings fun s => (only_given hc _ _ _).bind fun otp => ?_
  exact only_require hk fun _ => only_fill (only_pure _)

theorem only_verifyOtp : FailsOnly kinds P verifyOtp := by
  refine only_settings fun s => ?_
  split
  · exact only_found (only_pure _) fun _ => only_fill (only_clickIfFound _ _ _)
  · exact only_pure _

theorem only_searchFor (hk : "required_element_missing" ∈ kinds) (args : Arguments) :
    FailsOnly kinds P (searchFor args) :=
  only_require hk fun _ => only_fill (only_press (only_settle (only_pure _)))

theorem only_filterByPrice : FailsOnly kinds P filterByPrice :=
  only_found (only_pure _) fun _ => only_settings fun _ => only_fill (only_settle (only_pure _))

theorem only_submitInvalidEmail : FailsOnly kinds P submitInvalidEmail :=
  only_found (only_pure _) fun _ => only_settings fun _ => only_fill (only_clickIfFound _ _ _)

theorem only_enterDetails : FailsOnly kinds P enterDetails :=
  only_found (only_pure _) fun _ => only_settings fun _ => only_fill (only_settle (only_pure _))

theorem only_enterNegativePrice : FailsOnly kinds P enterNegativePrice := by
  refine only_found (only_pure _) fun found => only_settings fun s => only_fill ?_
  exact (meets_ofElement (fun b => (b.page.attribute? found.element.id "value").getD "")
    (fun _ => rfl) fun _ hb => hb).bind fun _ => only_pure _

theorem only_submitComment : FailsOnly kinds P submitComment := by
  refine only_found (only_pure _) fun found => only_settings fun s => only_fill ?_
  exact (only_clickIfFound _ _ _).bind fun outcome => only_pure _

end Walkthrough.Script
