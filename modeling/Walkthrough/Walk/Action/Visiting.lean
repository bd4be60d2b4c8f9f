import Walkthrough.Command.Catalogue
import Walkthrough.Text.FilePath
import Walkthrough.Walk.Script

namespace Walkthrough.Script

def opened (v : Visit) : Outcome :=
  match v.status with
  | some status => .passed ("opened " ++ v.url ++ " (" ++ toString status ++ ")")
  | none => .passed ("opened " ++ v.url)

def openHomepage : Script Outcome := do
  return opened (← navigate (← ofExcept (← settings).homepage))

def openPath (args : Arguments) : Script Outcome := do
  return opened (← navigate (args.text 1))

/-- Goes to a configured page and lets it settle. -/
def visitPage (path : SitePaths → String) (ms : Nat) : Script Outcome := do
  let v ← navigate (path (← settings).testData.paths)
  settle ms
  return opened v

/-- A reference as a web address, relative to the page if its URL is known. -/
def webAddress? (page : Option Url) (reference : String) : Option String :=
  let target := match page with
    | some base => base.join reference
    | none => Url.parse reference
  (target.toOption.filter Url.isWeb).map Url.toText

def isFollowed (reference : String) : Bool :=
  !Text.isBlankText reference && !reference.startsWith "mailto:"

def linksOf (selector : String) : Script (List String) := do
  let page := (Url.parse (← call .currentUrl)).toOption
  let found ← call (.query (.css selector none))
  let references ← found.mapM fun h => call (.attributeOf h "href")
  return ((references.filterMap id).filter isFollowed).filterMap (webAddress? page)

def hexByte (b : UInt8) : String :=
  String.ofList (Nat.toDigits 16 (b.toNat / 16) ++ Nat.toDigits 16 (b.toNat % 16))

/-- A file named for the first four bytes of an address. -/
def menuImage (address : String) : String :=
  "menu_" ++ String.join ((address.toUTF8.toList.take 4).map hexByte) ++ ".png"

/-- Goes to an address and takes a picture of the page. -/
def visitLink (address : String) : Script Unit := do
  discard (navigate address)
  call (.screenshot (Text.joinPath (← settings).screenshots (menuImage address)) true)

def failedVisits : List String → Script (List String)
  | [] => return []
  | address :: rest => do
    match ← attempt (visitLink address) with
    | .ok () => failedVisits rest
    | .error _ => return address :: (← failedVisits rest)

def visitMenu : Script Outcome := do
  let links := (← linksOf "nav a, header a, .menu a").eraseDups.take 12
  if links.isEmpty then return .warned "no menu links found"
  let failed ← failedVisits links
  if failed.isEmpty then return .passed ("visited " ++ toString links.length ++ " menu links")
  return .warned (toString failed.length ++ " of " ++ toString links.length ++
    " menu links failed: " ++ ", ".intercalate failed)

/-- What is wrong with each link of a list that does not answer well. -/
def brokenLinks : List String → Script (List String)
  | [] => return []
  | address :: rest => do
    match ← ask (.request .get address none) with
    | .ok status =>
      let others ← brokenLinks rest
      return if status < 400 then others else (toString status ++ " " ++ address) :: others
    | .error e =>
      let others ← brokenLinks rest
      return (address ++ " (" ++ e.message ++ ")") :: others

def checkBrokenLinks : Script Outcome := do
  let links := (← linksOf "a[href]").take 50
  let broken ← brokenLinks links
  if broken.isEmpty then return .passed (toString links.length ++ " links ok")
  return .warned (toString broken.length ++ " of " ++ toString links.length ++ " links broken: " ++
    ", ".intercalate broken)

def browseCards : String :=
  ".product-item, [class*=\"item\"], .card"

/-- Opens one item and comes back. -/
def viewItem (index : Nat) : Script Unit := do
  match (← call (.query (.css browseCards none)))[index]? with
  | none => throw (.elementMissing ("item " ++ toString (index + 1)))
  | some item =>
    call (.click item)
    settle 1000
    call .goBack
    settle 1000

def viewItems : List Nat → Script Nat
  | [] => return 0
  | index :: rest => do
    let r ← attempt (viewItem index)
    let others ← viewItems rest
    return if r.isOk then others + 1 else others

def browseItems : Script Outcome := do
  let total ← count browseCards
  let wanted := min total 3
  let viewed ← viewItems (List.range wanted)
  let message := "viewed " ++ toString viewed ++ " of " ++ toString total ++ " items"
  if viewed == wanted then return .passed message
  return .warned (message ++ " (" ++ toString (wanted - viewed) ++ " failed)")

/-- The name of a picture as a file: in lower case, with underscores for blanks. -/
def imageChars (inBlank : Bool) : List Char → List Char
  | [] => ".png".toList
  | c :: rest =>
    if Text.isBlank c then
      if inBlank then imageChars true rest else '_' :: imageChars true rest
    else Text.lowerChar c ++ imageChars false rest

def imageFile (name : String) : String :=
  String.ofList (imageChars false name.toList)

def takeScreenshot (args : Arguments) : Script Outcome := do
  let path := Text.joinPath (← settings).screenshots (imageFile (args.text 1))
  call (.screenshot path true)
  return .passed ("saved " ++ path)

end Walkthrough.Script
