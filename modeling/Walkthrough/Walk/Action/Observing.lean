import Walkthrough.Command.Catalogue
import Walkthrough.Decimal.Rounding
import Walkthrough.Walk.Script

namespace Walkthrough.Script

def readLoadTime : Script Outcome := do
  let t ← call .loadTiming
  return .passed ("load " ++ toString t.load ++ " ms, domcontentloaded " ++
    toString t.contentLoaded ++ " ms")

def readConsole : Script Outcome := do
  let errors := (← read).capture.console
  if errors.isEmpty then return .passed "no console errors captured"
  let sample := (errors.take 5).map fun m => excerpt 120 m.text
  return .warned (toString errors.length ++ " console errors: " ++ " | ".intercalate sample)

def readMissingResources : Script Outcome := do
  let failed := (← read).capture.failed
  if failed.isEmpty then return .passed "no missing or errored resources"
  let sample := (failed.take 10).map fun r => toString r.status ++ " " ++ r.url
  return .warned (toString failed.length ++ " missing or errored resources: " ++
    ", ".intercalate sample)

/-- Compares the load time with a budget in seconds. -/
def readLoadBudget (args : Arguments) : Script Outcome := do
  let some budget := args.float? 1
    | throw (.assertion ("no time budget in `" ++ args.line ++ "`"))
  let t ← call .loadTiming
  if t.load ≤ 0 then return .warned "load timing not available"
  let seconds := Float.ofInt t.load / 1000.0
  let message := "page load " ++ Decimal.fixedText 2 seconds ++ "s (budget " ++
    Decimal.shortestText budget ++ "s)"
  return if seconds ≤ budget then .passed message else .warned message

def readBrokenImages : Script Outcome := do
  let images ← call .images
  let broken := (images.filter (·.isBroken)).map (·.source)
  if broken.isEmpty then return .passed (toString images.length ++ " images loaded")
  return .warned (toString broken.length ++ " broken images: " ++ ", ".intercalate (broken.take 20))

/-- Counts images whose source is too short to be one. -/
def readImageSources : Script Outcome := do
  let images ← call .images
  let missing := images.countP fun i => (Text.trim i.source).utf8ByteSize < 5
  if missing == 0 then
    return .passed (toString images.length ++ " images, none without a source")
  return .warned (toString missing ++ " images without a usable source")

/-- An attribute of the first element that matches a selector. -/
def firstAttribute (selector name : String) : Script (Option String) := do
  match ← call (.query (.css selector none)) with
  | [] => return none
  | h :: _ => call (.attributeOf h name)

def readFavicon : Script Outcome := do
  let favicon ← firstAttribute "link[rel~=\"icon\"]" "href"
  let viewport ← firstAttribute "meta[name=\"viewport\"]" "content"
  let summary := "favicon: " ++ favicon.getD "none" ++ ", meta viewport: " ++ viewport.getD "none"
  return if favicon.isSome && viewport.isSome then .passed summary else .warned summary

def countAssets : Script Outcome := do
  let styles ← count "link[rel=\"stylesheet\"]"
  let scripts ← count "script[src]"
  return .passed (toString styles ++ " stylesheets, " ++ toString scripts ++ " scripts")

def findFileInput : Script Outcome := do
  if 0 < (← count "input[type=\"file\"]") then
    return .passed "file input found, upload skipped"
  return .warned "no file input found"

def findListing : Script Outcome := do
  let found ← count "[class*=\"listing\"], [class*=\"product\"]"
  if 0 < found then return .passed (toString found ++ " listing elements on page")
  return .warned "no listing visible"

def countFeed : Script Outcome := do
  let items ← count "[class*=\"feed\"], [class*=\"post\"], [class*=\"item\"]"
  return .passed ("feed has " ++ toString items ++ " items")

def countErrors : Script Outcome := do
  let errors ← count "[class*=\"error\"], [aria-invalid=\"true\"]"
  return .passed (toString errors ++ " error elements found")

def countFields : Script Outcome := do
  let fields ← count "input, textarea, select"
  return .passed (toString fields ++ " form fields")

def expectText (args : Arguments) : Script Outcome := do
  let text := args.text 1
  let found ← call (.query (.text (.contains text)))
  if found.isEmpty then return .warned ("text not found on page: \"" ++ text ++ "\"")
  return .passed ("found \"" ++ text ++ "\" (" ++ toString found.length ++ " occurrences)")

def readSeller : Script Outcome := do
  let search := (Search.of "seller info").css
    "[class*=\"seller\"], [class*=\"vendor\"], [class*=\"author\"]"
  match ← firstText search with
  | some text => return .passed ("seller info: " ++ excerpt 50 text)
  | none => return .warned "seller info section not found"

def readDescription : Script Outcome := do
  let search := (Search.of "description").css "[class*=\"description\"], [class*=\"details\"], p"
  match ← firstText search with
  | none => return .warned "description element not found"
  | some text =>
    let size := (Text.trim text).length
    if 10 < size then return .passed ("description loaded (" ++ toString size ++ " chars)")
    return .warned "description text too short"

def readSuccess : Script Outcome := do
  let search := (Search.of "success message").css
    "[class*=\"success\"], [class*=\"alert-success\"], [role=\"alert\"]"
  match (← firstText search).filter (!Text.isBlankText ·) with
  | some text => return .passed ("success message: " ++ excerpt 50 text)
  | none => return .warned "no success message visible"

def readConfirmation : Script Outcome := do
  let search := (Search.of "confirmation message").css
    "[class*=\"success\"], [class*=\"confirmation\"]" |>.text (.anyOf ["success", "submitted"])
  match ← firstText search with
  | some text => return .passed ("confirmation: " ++ excerpt 50 text)
  | none => return .warned "success message not found"

def readModeration : Script Outcome := do
  let search := (Search.of "moderation status").css
    "[class*=\"moderation\"], [class*=\"status\"], [title*=\"moderation\"]"
  match ← firstText search with
  | some text => return .passed ("moderation status: " ++ excerpt 30 text)
  | none => return .warned "moderation status not visible"

def findPagination : Script Outcome := do
  let search := (Search.of "next page control").cssWithText "a, button" (.contains "next")
    |>.css "[aria-label*=\"next\"]"
  match ← locate search with
  | some _ => return .passed "pagination next control found"
  | none => return .warned "pagination not detected"

def nameDevice (args : Arguments) : Script Outcome := do
  return ⟨.acknowledged, args.line ++ " noted, running on " ++ (← read).browserName⟩

def readViewport : Script Outcome := do
  match ← call .viewport with
  | some (width, height) => return .passed ("viewport " ++ toString width ++ "x" ++ toString height)
  | none => return .warned "viewport size not available"

end Walkthrough.Script
