import Walkthrough.Command.Catalogue
import Walkthrough.Walk.Script

namespace Walkthrough.Script

structure Probe where
  label : String
  method : HttpMethod
  path : String
  body : Option Node

def probeOf (d : TestData) : Endpoint → Probe
  | .listings => ⟨"listing creation", .post, d.api.listings, some d.listingPayload⟩
  | .marketplaceSearch => ⟨"marketplace search", .get, d.api.marketplaceSearch, none⟩
  | .vendorComments => ⟨"vendor comments", .get, d.api.vendorComments, none⟩
  | .groups => ⟨"groups api", .get, d.api.groups, none⟩
  | .userProfile => ⟨"user profile api", .get, d.api.userProfile, none⟩
  | .latency => ⟨"api latency", .get, d.api.latency, none⟩
  | .invalid => ⟨"invalid endpoint", .get, d.api.invalid, none⟩
  | .missingProduct => ⟨"non-existent product", .get, d.paths.missingProduct, none⟩

/-- Any answer will do, and takes no time; a request that fails is a warning. -/
def probe (endpoint : Endpoint) : Script Outcome := do
  let s ← settings
  let p := probeOf s.testData endpoint
  let url ← ofExcept (s.resolve p.path)
  match ← ask (.request p.method url p.body) with
  | .ok status =>
    return .passed (p.label ++ ": " ++ p.path ++ " " ++ toString status ++ " in 0 ms")
  | .error e => return .warned (p.label ++ ": " ++ p.path ++ " failed: " ++ e.message)

/-- The status of the last navigation, or else that of a request for the current page. -/
def currentStatus : Script Nat := do
  match (← read).last.bind (·.status) with
  | some status => return status
  | none => call (.request .get (← call .currentUrl) none)

def checkStatus (args : Arguments) : Script Outcome := do
  let some expected := args.nat? Text.maxU16 1
    | throw (.assertion ("no status code in `" ++ args.line ++ "`"))
  let actual ← currentStatus
  if actual != expected then throw (.statusMismatch expected actual)
  return .passed ("status " ++ toString actual)

end Walkthrough.Script
