import Mathlib.Tactic.Common
import Walkthrough.Proofs.Walk.Action.Clicking
import Walkthrough.Proofs.Walk.Action.Filling
import Walkthrough.Proofs.Walk.Action.Observing
import Walkthrough.Proofs.Walk.Action.Visiting
import Walkthrough.Walk.Action.Perform

namespace Walkthrough

open Script

/-- Actions that ask what the session knows, and no more. -/
def Action.looks : Action → Bool
  | checkLoadTime | checkConsole | checkMissingResources | checkBrokenImages | checkFavicon => true
  | checkImageSources | checkLoadBudget | countAssets | expectText | readSeller => true
  | readDescription | readSuccess | readConfirmation | countErrors | countFields => true
  | findFileInput | findListing | countFeed | findPagination | readModeration => true
  | nameDevice | readViewport => true
  | _ => false

variable {t : Terms}

theorem Action.keeps_of_looks [t.Looking] {a : Action} (h : a.looks) (args : Arguments) :
    Keeps t Outcome.Regular (a.script args) := by
  cases a with
  | checkLoadTime => exact keeps_readLoadTime
  | checkConsole => exact keeps_readConsole
  | checkMissingResources => exact keeps_readMissingResources
  | checkBrokenImages => exact keeps_readBrokenImages
  | checkFavicon => exact keeps_readFavicon
  | checkImageSources => exact keeps_readImageSources
  | checkLoadBudget => exact keeps_readLoadBudget args
  | countAssets => exact keeps_countAssets
  | expectText => exact keeps_expectText args
  | readSeller => exact keeps_readSeller
  | readDescription => exact keeps_readDescription
  | readSuccess => exact keeps_readSuccess
  | readConfirmation => exact keeps_readConfirmation
  | countErrors => exact keeps_countErrors
  | countFields => exact keeps_countFields
  | findFileInput => exact keeps_findFileInput
  | findListing => exact keeps_findListing
  | countFeed => exact keeps_countFeed
  | findPagination => exact keeps_findPagination
  | readModeration => exact keeps_readModeration
  | nameDevice => exact keeps_nameDevice args
  | readViewport => exact keeps_readViewport
  | _ => contradiction

def Action.visits : Action → Bool
  | openHomepage | openPath | goToCart | createListing | loadVendors | loadGroups => true
  | visitMenu | checkOut => true
  | _ => false

def Action.pictures : Action → Bool
  | takeScreenshot | visitMenu => true
  | _ => false

def Effect.visits : Effect → Bool
  | act a => a.visits
  | note _ | heading => false

def Effect.pictures : Effect → Bool
  | act a => a.pictures
  | note _ | heading => false

def Effect.looks : Effect → Bool
  | act a => a.looks
  | note _ | heading => true

theorem Effect.keeps_of_looks [t.Looking] {e : Effect} (h : e.looks) (args : Arguments) :
    Keeps t Outcome.Regular (e.script args) := by
  cases e with
  | act a => exact a.keeps_of_looks h args
  | note category => exact .pure (by simp [Outcome.Regular])
  | heading => exact .pure (by simp [Outcome.Regular])

/-- Credentials that are the same as far as an action reads them: it does not where the line gives
the value. -/
def Action.ReadsSame (args : Arguments) (c d : Credentials) : Action → Prop
  | enterPhone => args.get? 1 = none → c.phone = d.phone
  | enterPhoneWithCountry =>
    (args.get? 1 = none → c.countryCode = d.countryCode) ∧ (args.get? 2 = none → c.phone = d.phone)
  | login => c.countryCode = d.countryCode ∧ c.phone = d.phone
  | enterOtp => args.get? 1 = none → c.otp = d.otp
  | verifyOtp => c.otp = d.otp
  | _ => True

def Effect.ReadsSame (args : Arguments) (c d : Credentials) : Effect → Prop
  | act a => a.ReadsSame args c d
  | note _ | heading => True

theorem Action.keeps [t.Handling] {a : Action} {args : Arguments}
    (hread : ∀ c d, t.credentials c d → a.ReadsSame args c d) (hv : a.visits → t.visits)
    (hp : a.pictures → t.pictures) : Keeps t Outcome.Regular (a.script args) := by
  by_cases h : a.looks
  · exact a.keeps_of_looks h args
  cases a with
  | openHomepage => exact keeps_openHomepage (hv rfl)
  | openPath => exact keeps_openPath (hv rfl) args
  | goToCart | createListing | loadVendors | loadGroups => exact keeps_visitPage (hv rfl) _ _
  | checkStatus => exact keeps_checkStatus args
  | visitMenu => exact keeps_visitMenu (hv rfl) (hp rfl)
  | checkBrokenLinks => exact keeps_checkBrokenLinks
  | clickText | clickButton | clickLink => exact keeps_clickFound _
  | typeInto | fillWith => exact keeps_fillField _ _
  | expectUrl => exact keeps_expectUrl args
  | awaitText => exact keeps_awaitText args
  | wait => exact keeps_wait args
  | takeScreenshot => exact keeps_takeScreenshot (hp rfl) args
  | enterPhone => exact keeps_enterPhone hread
  | enterPhoneWithCountry =>
    exact keeps_enterPhoneWithCountry (fun c d h => (hread c d h).1) fun c d h => (hread c d h).2
  | login => exact keeps_login (fun c d h => (hread c d h).1) fun c d h => (hread c d h).2
  | enterOtp => exact keeps_enterOtp hread
  | verifyOtp => exact keeps_verifyOtp hread
  | searchFor => exact keeps_searchFor args
  | openFirstItem | clickItemImage => exact keeps_openFound _ _ _
  | addToCart => exact keeps_addToCart
  | checkOut => exact keeps_checkOut (hv rfl)
  | browseItems => exact keeps_browseItems
  | filterByPrice => exact keeps_filterByPrice
  | turnCarousel => exact keeps_turnCarousel
  | addTwice => exact keeps_addTwice
  | submitInvalidEmail => exact keeps_submitInvalidEmail
  | submitEmptyForm => exact keeps_submitEmptyForm
  | enterDetails => exact keeps_enterDetails
  | enterNegativePrice => exact keeps_enterNegativePrice
  | deleteListing => exact keeps_deleteListing
  | submitComment => exact keeps_submitComment
  | joinOrLeaveGroup => exact keeps_joinOrLeaveGroup
  | probe endpoint => exact keeps_probe endpoint
  | clickButtonContaining | requestOtp | completePurchase | sortItems | removeFromCart | submitForm
  | submitListing | requestDescription | editListing | saveChanges | confirmPopup | notifyGroup
  | openVendor | postInGroup | openCommentMenu => exact keeps_clickIfFound _ _ _
  | _ => exact absurd rfl h

theorem Effect.keeps_of_handling [t.Handling] {e : Effect} {args : Arguments}
    (hread : ∀ c d, t.credentials c d → e.ReadsSame args c d) (hv : e.visits → t.visits)
    (hp : e.pictures → t.pictures) : Keeps t Outcome.Regular (e.script args) := by
  cases e with
  | act a => exact Action.keeps hread hv hp
  | note | heading => exact keeps_of_looks rfl args

theorem Effect.keeps [t.Acting] {e : Effect} {args : Arguments}
    (hread : ∀ c d, t.credentials c d → e.ReadsSame args c d) (hv : e.visits → t.visits) :
    Keeps t Outcome.Regular (e.script args) :=
  keeps_of_handling hread hv fun _ => Terms.Acting.pictures

theorem Effect.readsSame_self (e : Effect) (args : Arguments) (c : Credentials) :
    e.ReadsSame args c c := by
  cases e with
  | act a => cases a <;> simp [ReadsSame, Action.ReadsSame]
  | note | heading => trivial

theorem Effect.keeps_of_eq [t.Handling] (ht : t.credentials = Eq) {e : Effect}
    (hv : e.visits → t.visits) (hp : e.pictures → t.pictures) (args : Arguments) :
    Keeps t Outcome.Regular (e.script args) := by
  refine keeps_of_handling (fun c d h => ?_) hv hp
  rw [ht] at h
  rw [h]
  exact e.readsSame_self args d

theorem Effect.keeps_eq (e : Effect) (args : Arguments) :
    Keeps (.acting Eq) Outcome.Regular (e.script args) :=
  keeps_of_eq rfl (fun _ => trivial) (fun _ => Terms.Acting.pictures) args

theorem Effect.keeps_staying {e : Effect} (h : ¬ e.visits) (args : Arguments) :
    Keeps .staying Outcome.Regular (e.script args) :=
  keeps_of_eq rfl (fun hv => absurd hv h) (fun _ => Terms.Acting.pictures) args

theorem Effect.keeps_pictureless {e : Effect} (h : ¬ e.pictures) (args : Arguments) :
    Keeps .pictureless Outcome.Regular (e.script args) :=
  keeps_of_eq rfl (fun _ => trivial) (fun hp => absurd hp h) args

end Walkthrough
