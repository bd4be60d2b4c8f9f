import Walkthrough.Command.Catalogue
import Walkthrough.Walk.Script

namespace Walkthrough.Script

def clickFound (s : Search) : Script Outcome := do
  let found ← require s
  call (.click found.element)
  return .passed ("clicked " ++ s.target ++ " via " ++ found.tier.name)

def openFound (s : Search) (ms : Nat) (done : String) : Script Outcome := do
  let found ← require s
  call (.click found.element)
  settle ms
  return .passed done

def inQuotes (lead text : String) : String :=
  lead ++ " \"" ++ text ++ "\""

def clickable (text : String) : Search :=
  (Search.of (inQuotes "clickable" text)).role "button" (.contains text)
    |>.role "link" (.contains text)
    |>.cssWithText "[class*=\"btn\"], [class*=\"button\"], [role=\"button\"]" (.contains text)
    |>.text (.contains text)

def clickText (args : Arguments) : Script Outcome :=
  clickFound (clickable (args.text 1))

def clickButton (args : Arguments) : Script Outcome :=
  let text := args.text 1
  clickFound ((Search.of (inQuotes "button" text)).role "button" (.contains text))

def clickLink (args : Arguments) : Script Outcome :=
  let text := args.text 1
  clickFound ((Search.of (inQuotes "link" text)).role "link" (.contains text))

def clickButtonContaining (args : Arguments) : Script Outcome :=
  let text := args.text 1
  clickIfFound
    ((Search.of (inQuotes "button containing" text)).cssWithText "button" (.contains text)
      |>.role "button" (.contains text))
    0 (inQuotes "clicked button containing" text)

def openFirstItem : Script Outcome :=
  openFound
    ((Search.of "marketplace item").css ".product-item, [class*=\"item\"], .card, [role=\"article\"]")
    2000 "opened first item"

def clickItemImage : Script Outcome :=
  openFound ((Search.of "item image").fallback "img") 1000 "clicked item image"

def addToCart : Script Outcome := do
  let search := (Search.of "add to cart button").role "button"
      (.anyOf ["add to cart", "add cart", "cart", "add"])
    |>.cssWithText
      "button:not([class*=\"mobile\"]), [role=\"button\"]:not([class*=\"mobile\"]), a"
      (.anyOf ["add", "cart"])
    |>.cssWithText "button" (.anyOf ["add", "cart"])
  let some found ← locate search | return .warned "add to cart button not found, skipped"
  match ← ask (.click found.element) with
  | .error e => return .warned ("could not click add to cart: " ++ e.message)
  | .ok () =>
    settle 1500
    return .passed "added item to cart"

def addTwice : Script Outcome := do
  let search := (Search.of "add to cart button").cssWithText "button" (.contains "add to cart")
  let some found ← locate search | return .warned "add to cart button not found"
  call (.click found.element)
  settle 800
  call (.click found.element)
  settle 800
  return .passed "added same item twice"

def notMobile : String :=
  "button:not([class*=\"mobile\"]), a, [role=\"button\"]"

/-- Without a button, the cart is where checking out starts. -/
def checkOut : Script Outcome := do
  let names := ["checkout", "purchase", "proceed", "buy"]
  let search := (Search.of "checkout button").role "button" (.anyOf names)
    |>.cssWithText notMobile (.anyOf names)
  match ← locate search with
  | some found =>
    call (.click found.element)
    settle 2000
    return .passed "proceeded to checkout"
  | none =>
    let cart := (← settings).testData.paths.cart
    discard (navigate cart)
    return .warned ("checkout button not found, navigated to " ++ cart)

def completePurchase : Script Outcome :=
  let names := ["complete", "pay", "purchase", "submit", "confirm", "checkout"]
  clickIfFound
    ((Search.of "complete purchase button").role "button" (.anyOf names)
      |>.cssWithText notMobile (.anyOf names)
      |>.fallback "button:not([class*=\"mobile\"])")
    2000 "completed purchase"

def sortItems : Script Outcome :=
  clickIfFound
    ((Search.of "sort control").role "button" (.contains "sort") |>.css "select, [class*=\"sort\"]")
    1000 "clicked sort control"

def removeFromCart : Script Outcome :=
  clickIfFound (Search.button "remove button" ["remove", "delete"]) 1000 "removed item from cart"

def carousels : List String :=
  ["[class*=\"carousel\"]", "[class*=\"slider\"]", ".swiper", ".gallery"]

/-- A selector within any carousel. -/
def withinCarousels (selector : String) : String :=
  ", ".intercalate (carousels.map fun c => c ++ " " ++ selector)

def turnCarousel : Script Outcome := do
  if (← count (", ".intercalate carousels)) == 0 then return .warned "image carousel not found"
  let images ← count (withinCarousels "img")
  let next := (Search.of "carousel next control").css (withinCarousels "[class*=\"next\"]")
    |>.cssWithText (withinCarousels "button") (.contains "next")
  match ← locate next with
  | some found =>
    call (.click found.element)
    settle 500
    return .passed ("carousel with " ++ toString images ++ " images advanced")
  | none => return .passed ("carousel with " ++ toString images ++ " images, no next control")

/-- A button with one of several texts. -/
def textButton (target : String) (texts : List String) : Search :=
  (Search.of target).cssWithText "button" (.anyOf texts)

def submitForm : Script Outcome :=
  clickIfFound ((Search.button "submit button" ["submit", "send"]).fallback "button") 1500
    "submitted form"

def submitButton : Search :=
  (Search.of "submit button").cssWithText "button" (.contains "submit")
    |>.css "button[type=\"submit\"]"

def submitEmptyForm : Script Outcome := do
  let some found ← locate submitButton | return .warned "submit button not found"
  call (.click found.element)
  settle 1000
  let errors ← count "[class*=\"error\"], .field-error, [role=\"alert\"]"
  return .passed ("empty form submitted, " ++ toString errors ++ " error fields shown")

def submitListing : Script Outcome :=
  clickIfFound (Search.button "submit listing button" ["submit", "create", "publish"]) 1500
    "submitted listing"

def requestDescription : Script Outcome :=
  clickIfFound (textButton "ai description button" ["ai", "auto-generate", "generate"]) 2000
    "ai description requested"

def editListing : Script Outcome :=
  clickIfFound
    ((Search.of "edit button").cssWithText "button" (.contains "edit") |>.css "[href*=\"edit\"]")
    1000 "edit listing opened"

def saveChanges : Script Outcome :=
  clickIfFound (textButton "save button" ["save", "update"]) 1500 "changes saved"

def deleteListing : Script Outcome := do
  let some found ← locate (textButton "delete button" ["delete", "remove"])
    | return .warned "delete button not found"
  call (.click found.element)
  settle 1000
  match ← locate (textButton "confirm button" ["confirm", "yes"]) with
  | some found =>
    call (.click found.element)
    settle 1000
    return .passed "listing deleted"
  | none => return .passed "delete initiated"

def confirmPopup : Script Outcome :=
  let names := ["confirm", "ok", "yes"]
  clickIfFound
    ((textButton "confirm button" names).cssWithText Search.buttonish (.anyOf names))
    800 "popup confirmed"

def notifyGroup : Script Outcome :=
  clickIfFound (Search.button "notify group button" ["notify", "group"]) 1000 "clicked notify group"

def openVendor : Script Outcome :=
  clickIfFound ((Search.of "vendor link").css "a[href*=\"vendor\"], [class*=\"vendor\"]") 1000
    "opened vendor page"

def joinOrLeaveGroup : Script Outcome := do
  let some found ← locate (textButton "join or leave button" ["join", "leave"])
    | return .warned "join/leave button not found"
  let label ← call (.text found.element)
  call (.click found.element)
  settle 1000
  return .passed ("group action: " ++ excerpt 30 label)

def postInGroup : Script Outcome :=
  clickIfFound (textButton "post button" ["post", "share"]) 1000 "post listing initiated"

def openCommentMenu : Script Outcome :=
  clickIfFound
    ((Search.of "comment menu").css
      "[class*=\"comment-menu\"], [class*=\"comment-actions\"], .menu")
    500 "comment menu opened"

def requestOtp : Script Outcome :=
  clickIfFound (textButton "otp generation button" ["send otp", "generate otp"]) 2000
    "otp generation triggered"

end Walkthrough.Script
