import Walkthrough.Walk.Action.Clicking

namespace Walkthrough.Script

def fieldNamed (field : String) : Search :=
  (Search.of (inQuotes "field" field)).placeholder (.contains field)
    |>.label (.contains field)
    |>.fallback "input, textarea"

def fillField (field value : String) : Script Outcome := do
  let search := fieldNamed field
  let found ← require search
  call (.fill found.element value)
  return .passed ("filled " ++ search.target ++ " via " ++ found.tier.name)

def typeInto (args : Arguments) : Script Outcome :=
  fillField (args.text 2) (args.text 1)

def fillWith (args : Arguments) : Script Outcome :=
  fillField (args.text 1) (args.text 2)

/-- A value from the line, or else the configured one. -/
def given (fromLine configured : Option String) (what : String) : Script String :=
  match fromLine.or configured with
  | some value => return value
  | none => throw (.configuration ("no " ++ what ++ " in the step and none configured"))

def phoneHints : Wording :=
  .anyOf ["phone", "mobile", "number", "digit"]

def otpHints : Wording :=
  .anyOf ["otp", "code", "verification"]

def enterPhone (args : Arguments) : Script Outcome := do
  let phone ← given (args.get? 1) (← settings).credentials.phone "phone"
  let found ← require ((Search.of "phone input").placeholder phoneHints
    |>.label phoneHints
    |>.css "input[type=\"tel\"]"
    |>.fallback "input[type=\"text\"]"
    |>.fallback "input")
  call (.fill found.element phone)
  return .passed ("entered phone " ++ phone)

/-- Picks a country code where the page has a selector for it. -/
def chooseCountry (code : String) : Script Unit := do
  let selector := (Search.of "country selector").css
    "select[name*=\"country\"], button[id*=\"country\"], input[placeholder*=\"country\" i]"
  match ← locate selector with
  | none => return
  | some found =>
    call (.click found.element)
    settle 500
    match ← locate ((Search.of ("country option " ++ code)).cssWithText "option" (.contains code)) with
    | none => return
    | some option => call (.click option.element)

def enterPhoneWithCountry (args : Arguments) : Script Outcome := do
  let credentials := (← settings).credentials
  let code ← given (args.get? 1) credentials.countryCode "country code"
  let phone ← given (args.get? 2) credentials.phone "phone"
  chooseCountry code
  let search := (Search.of "phone input").css "input#phone"
    |>.css "input[type=\"tel\"]"
    |>.placeholder (.anyOf ["phone", "mobile", "number"])
    |>.fallback "input[type=\"text\"]"
  match ← locate search with
  | none => return .warned "phone input not found"
  | some found =>
    call (.fill found.element phone)
    return .passed ("entered phone +" ++ code ++ " " ++ phone)

/-- Enters the configured country code where there is an input for it. -/
def enterCountryCode : Script Unit := do
  match (← settings).credentials.countryCode with
  | none => return
  | some code =>
    let search := (Search.of "country code input").css
      "input[placeholder*=\"code\" i], select[name*=\"country\"]"
    match ← locate search with
    | none => return
    | some found => if found.element.tag == "input" then call (.fill found.element code)

def login : Script Outcome := do
  let phone ← given none (← settings).credentials.phone "phone"
  enterCountryCode
  settle 300
  let search := (Search.of "phone input").placeholder phoneHints
    |>.css "input[type=\"tel\"]"
    |>.fallback "input[type=\"text\"]"
  match ← locate search with
  | none => return .warned "phone input not found"
  | some found =>
    call (.fill found.element phone)
    return .passed ("logged in with phone " ++ phone)

def enterOtp (args : Arguments) : Script Outcome := do
  let otp ← given (args.get? 1) (← settings).credentials.otp "otp"
  let found ← require ((Search.of "otp input").placeholder otpHints
    |>.label otpHints
    |>.css "input[type=\"text\"][name*=\"otp\"], input[name*=\"code\"]"
    |>.nth "input[type=\"text\"]" 1 2)
  call (.fill found.element otp)
  return .passed ("entered otp via " ++ found.tier.name)

def verifyOtp : Script Outcome := do
  let some otp := (← settings).credentials.otp
    | return .warned "no otp configured, verification skipped"
  let some found ← locate ((Search.of "otp input").css
      "input[placeholder*=\"OTP\"], input[name*=\"otp\"]")
    | return .warned "otp input not found"
  call (.fill found.element otp)
  clickIfFound (textButton "verify button" ["verify", "confirm"]) 1000 "otp verification attempted"

def searchFor (args : Arguments) : Script Outcome := do
  let wanted := args.text 1
  let found ← require ((Search.of "search input").css
      "input[name=\"search\"], input[placeholder=\"Search items...\"]"
    |>.placeholder (.contains "search items")
    |>.fallback "input[type=\"text\"]")
  call (.fill found.element wanted)
  call (.press found.element "Enter")
  settle 2000
  return .passed ("searched for \"" ++ wanted ++ "\"")

def filterByPrice : Script Outcome := do
  let search := (Search.of "price filter input").css "input[type=\"range\"], input[name*=\"price\"]"
    |>.fallback "[class*=\"price\"] input"
  let some found ← locate search | return .warned "price filter input not found"
  let value := (← settings).testData.priceFilter
  call (.fill found.element value)
  settle 1000
  return .passed ("applied price filter " ++ value)

def submitInvalidEmail : Script Outcome := do
  let some found ← locate ((Search.of "email input").css "input[type=\"email\"]")
    | return .warned "email input not found"
  call (.fill found.element (← settings).testData.invalidEmail)
  clickIfFound submitButton 1000 "invalid email submission attempted"

def enterDetails : Script Outcome := do
  let search := (Search.of "details field").css
      "textarea, input[type=\"text\"][name*=\"title\"], input[type=\"text\"][name*=\"description\"]"
    |>.fallback "textarea, input[type=\"text\"]"
  let some found ← locate search | return .warned "details field not found"
  call (.fill found.element (← settings).testData.listingDetails)
  settle 500
  return .passed "entered listing details"

def enterNegativePrice : Script Outcome := do
  let some found ← locate ((Search.of "price input").css
      "input[type=\"number\"], input[name*=\"price\"]")
    | return .warned "price input not found"
  let value := (← settings).testData.negativePrice
  call (.fill found.element value)
  let kept ← call (.inputValue found.element)
  return .passed ("entered " ++ value ++ " into price, field holds \"" ++ kept ++ "\"")

def submitComment : Script Outcome := do
  let search := (Search.of "comment field").css
      "textarea[name*=\"comment\"], textarea[placeholder*=\"comment\"]"
    |>.fallback "textarea"
  let some found ← locate search | return .warned "comment field not found"
  call (.fill found.element (← settings).testData.comment)
  let outcome ←
    clickIfFound (Search.button "comment submit button" ["submit", "post"]) 1000 "submitted comment"
  return if outcome.status == .warned then .warned "comment entered but submit button not found"
    else outcome

end Walkthrough.Script
