import Walkthrough.Document.Yaml.Reader
import Walkthrough.Environment
import Walkthrough.Settings

namespace Walkthrough

open Document

structure BrowserOptions where
  headless : Bool
  executable : Option String
  windowWidth : Nat
  windowHeight : Nat
  deriving Repr, DecidableEq

structure TimeLimits where
  navigation : Nat
  action : Nat
  awaitText : Nat
  run : Nat
  deriving Repr, DecidableEq

structure Configuration where
  baseUrl : Option Url
  login : Credentials
  browser : BrowserOptions
  timeouts : TimeLimits
  pacing : Float
  screenshots : String
  stepFile : Option String
  testData : TestData

structure Launch where
  executable : Option String
  headless : Bool
  windowWidth : Nat
  windowHeight : Nat
  navigationTimeout : Nat
  actionTimeout : Nat
  deriving Repr, DecidableEq

namespace BrowserOptions

def standard : BrowserOptions where
  headless := true
  executable := none
  windowWidth := 1280
  windowHeight := 800

def fieldNames : List String :=
  ["headless", "executable", "window_width", "window_height"]

def ofNode? : Reader BrowserOptions := fun n => do
  let f ← Fields.ofNode? fieldNames false n
  return {
    headless := ← f.getD "headless" .bool standard.headless
    executable := ← f.getD "executable" (.optional .text) none
    windowWidth := ← f.getD "window_width" (.nat Text.maxU32) standard.windowWidth
    windowHeight := ← f.getD "window_height" (.nat Text.maxU32) standard.windowHeight }

def toNode (b : BrowserOptions) : Node :=
  .table [("headless", .bool b.headless), ("executable", ofText? b.executable),
    ("window_width", .whole b.windowWidth), ("window_height", .whole b.windowHeight)]

end BrowserOptions

namespace TimeLimits

def standard : TimeLimits where
  navigation := 60000
  action := 30000
  awaitText := Timeouts.standard.awaitText
  run := Timeouts.standard.run

def fieldNames : List String :=
  ["navigation_ms", "action_ms", "wait_for_ms", "run_ms"]

def ofNode? : Reader TimeLimits := fun n => do
  let f ← Fields.ofNode? fieldNames false n
  return {
    navigation := ← f.getD "navigation_ms" (.nat Text.maxU64) standard.navigation
    action := ← f.getD "action_ms" (.nat Text.maxU64) standard.action
    awaitText := ← f.getD "wait_for_ms" (.nat Text.maxU64) standard.awaitText
    run := ← f.getD "run_ms" (.nat Text.maxU64) standard.run }

def toNode (t : TimeLimits) : Node :=
  .table [("navigation_ms", .whole t.navigation), ("action_ms", .whole t.action),
    ("wait_for_ms", .whole t.awaitText), ("run_ms", .whole t.run)]

end TimeLimits

namespace Configuration

def standard : Configuration where
  baseUrl := none
  login := Credentials.none
  browser := BrowserOptions.standard
  timeouts := TimeLimits.standard
  pacing := 1.0
  screenshots := "screenshots"
  stepFile := none
  testData := TestData.standard

def fieldNames : List String :=
  ["base_url", "login", "browser", "timeouts", "pacing_scale", "screenshots_dir", "steps_file",
    "test_data"]

def ofNode? : Reader Configuration := fun n => do
  let f ← Fields.ofNode? fieldNames false n
  return {
    baseUrl := ← f.getD "base_url" (.optional .url) none
    login := ← f.getD "login" Credentials.ofNode? standard.login
    browser := ← f.getD "browser" BrowserOptions.ofNode? standard.browser
    timeouts := ← f.getD "timeouts" TimeLimits.ofNode? standard.timeouts
    pacing := ← f.getD "pacing_scale" .float standard.pacing
    screenshots := ← f.getD "screenshots_dir" .text standard.screenshots
    stepFile := ← f.getD "steps_file" (.optional .text) none
    testData := ← f.getD "test_data" TestData.ofNode? standard.testData }

def toNode (c : Configuration) : Node :=
  .table [("base_url", Settings.urlNode c.baseUrl), ("login", c.login.toNode),
    ("browser", c.browser.toNode), ("timeouts", c.timeouts.toNode),
    ("pacing_scale", .float c.pacing), ("screenshots_dir", .text c.screenshots),
    ("steps_file", ofText? c.stepFile), ("test_data", c.testData.toNode)]

def parse? (text : String) : Option Configuration :=
  (Yaml.parse? text).bind ofNode?

/-- A variable that cannot override anything. -/
inductive OverrideError
  | baseUrl (raw : String) (cause : UrlError)
  deriving Repr, DecidableEq

def OverrideError.message : OverrideError → String
  | baseUrl raw cause => "STEPDRIVER_BASE_URL is not a valid URL: " ++ raw ++ ": " ++ cause.message

/-- Whether the text of a switch leaves it on, in any case. -/
def isOn (switch : String) : Bool :=
  !(["0", "false", "no", "off"].contains (Text.lowercaseAscii switch))

/-- Changes a configuration in place: what is changed before a failure stays changed. -/
abbrev Overriding := ExceptT OverrideError (StateM Configuration)

/-- The parts of a configuration that a variable can override. -/
inductive Overridable
  | baseUrl
  | headless
  | executable
  | phone
  | countryCode
  | otp
  deriving Repr, DecidableEq

namespace Overridable

/-- In the order in which they are overridden. -/
def all : List Overridable :=
  [baseUrl, headless, executable, phone, countryCode, otp]

def name : Overridable → String
  | baseUrl => "STEPDRIVER_BASE_URL"
  | headless => "STEPDRIVER_HEADLESS"
  | executable => "STEPDRIVER_CHROME"
  | phone => "STEPDRIVER_PHONE"
  | countryCode => "STEPDRIVER_COUNTRY_CODE"
  | otp => "STEPDRIVER_OTP"

abbrev Value : Overridable → Type
  | baseUrl => Option Url
  | headless => Bool
  | executable | phone | countryCode | otp => Option String

/-- What a variable says; what the login steps use is taken as it is. -/
def read : (o : Overridable) → String → Except OverrideError o.Value
  | baseUrl, raw =>
    match Url.parse (Text.trim raw) with
    | .ok url => .ok (some url)
    | .error cause => .error (.baseUrl raw cause)
  | headless, raw => .ok (isOn (Text.trim raw))
  | executable, raw => .ok (some (Text.trim raw))
  | phone, raw => .ok (some raw)
  | countryCode, raw => .ok (some raw)
  | otp, raw => .ok (some raw)

def set : (o : Overridable) → o.Value → Configuration → Configuration
  | baseUrl, url, c => { c with baseUrl := url }
  | headless, on, c => { c with browser := { c.browser with headless := on } }
  | executable, path, c => { c with browser := { c.browser with executable := path } }
  | phone, text, c => { c with login := { c.login with phone := text } }
  | countryCode, text, c => { c with login := { c.login with countryCode := text } }
  | otp, text, c => { c with login := { c.login with otp := text } }

/-- Sets what the variable says, if it says anything. -/
def override (v : Variables) (o : Overridable) : Overriding Unit :=
  match v.given? o.name with
  | none => pure ()
  | some raw => do
    let x ← (o.read raw : Except OverrideError o.Value)
    modify (o.set x)

end Overridable

/-- Variables that are not blank win over the file. -/
def override (v : Variables) : Overriding Unit :=
  Overridable.all.forM (Overridable.override v)

def overridden (v : Variables) (c : Configuration) : Except OverrideError Configuration :=
  match (override v).run c with
  | (.ok (), c) => .ok c
  | (.error e, _) => .error e

def settings (c : Configuration) : Settings where
  baseUrl := c.baseUrl
  credentials := c.login
  timeouts := ⟨c.timeouts.awaitText, c.timeouts.run⟩
  screenshots := c.screenshots
  pacing := Settings.clampPacing c.pacing
  testData := c.testData

def launch (c : Configuration) (found : Option String) : Launch where
  executable := c.browser.executable.or found
  headless := c.browser.headless
  windowWidth := c.browser.windowWidth
  windowHeight := c.browser.windowHeight
  navigationTimeout := c.timeouts.navigation
  actionTimeout := c.timeouts.action

end Configuration

end Walkthrough
