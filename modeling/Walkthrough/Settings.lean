import Walkthrough.Document.Reading

namespace Walkthrough

open Document

/-- What the login steps use where a step does not say; nothing is assumed. -/
structure Credentials where
  countryCode : Option String
  phone : Option String
  otp : Option String
  deriving Repr, DecidableEq

structure Timeouts where
  awaitText : Nat
  run : Nat
  deriving Repr, DecidableEq

/-- The pages that workflow steps go to, relative to the base URL. -/
structure SitePaths where
  cart : String
  createListing : String
  vendors : String
  groups : String
  missingProduct : String
  deriving Repr, DecidableEq

/-- What probe steps request, relative to the base URL. -/
structure ApiPaths where
  listings : String
  marketplaceSearch : String
  vendorComments : String
  groups : String
  userProfile : String
  latency : String
  invalid : String
  deriving Repr, DecidableEq

/-- What workflow steps enter into forms. -/
structure TestData where
  listingDetails : String
  comment : String
  invalidEmail : String
  priceFilter : String
  negativePrice : String
  /-- The body that the probe for new listings sends. -/
  listingPayload : Node
  paths : SitePaths
  api : ApiPaths

structure Settings where
  baseUrl : Option Url
  credentials : Credentials
  timeouts : Timeouts
  screenshots : String
  /-- Scales the pauses after actions. -/
  pacing : Float
  testData : TestData

def Document.ofText? : Option String → Node
  | none => .null
  | some s => .text s

namespace Credentials

def none : Credentials :=
  ⟨Option.none, Option.none, Option.none⟩

def fieldNames : List String :=
  ["country_code", "phone", "otp"]

def ofNode? : Reader Credentials := fun n => do
  let f ← Fields.ofNode? fieldNames false n
  return {
    countryCode := ← f.getD "country_code" (.optional .text) Option.none
    phone := ← f.getD "phone" (.optional .text) Option.none
    otp := ← f.getD "otp" (.optional .text) Option.none }

def toNode (c : Credentials) : Node :=
  .table [("country_code", ofText? c.countryCode), ("phone", ofText? c.phone), ("otp", ofText? c.otp)]

end Credentials

namespace Timeouts

def standard : Timeouts :=
  ⟨30000, 600000⟩

def ofNode? : Reader Timeouts := fun n => do
  let f ← Fields.ofNode? ["wait_for_ms", "run_ms"] false n
  return {
    awaitText := ← f.getD "wait_for_ms" (.nat Text.maxU64) standard.awaitText
    run := ← f.getD "run_ms" (.nat Text.maxU64) standard.run }

def toNode (t : Timeouts) : Node :=
  .table [("wait_for_ms", .whole t.awaitText), ("run_ms", .whole t.run)]

end Timeouts

namespace SitePaths

def standard : SitePaths where
  cart := "/cart"
  createListing := "/create-listing"
  vendors := "/garage-sale/vendor"
  groups := "/garage-sale/groups"
  missingProduct := "/garage-sale/marketplace/product/invalid-999999"

def fieldNames : List String :=
  ["cart", "create_listing", "vendors", "groups", "missing_product"]

def ofNode? : Reader SitePaths := fun n => do
  let f ← Fields.ofNode? fieldNames false n
  return {
    cart := ← f.getD "cart" .text standard.cart
    createListing := ← f.getD "create_listing" .text standard.createListing
    vendors := ← f.getD "vendors" .text standard.vendors
    groups := ← f.getD "groups" .text standard.groups
    missingProduct := ← f.getD "missing_product" .text standard.missingProduct }

def toNode (p : SitePaths) : Node :=
  .table [("cart", .text p.cart), ("create_listing", .text p.createListing),
    ("vendors", .text p.vendors), ("groups", .text p.groups),
    ("missing_product", .text p.missingProduct)]

end SitePaths

namespace ApiPaths

def standard : ApiPaths where
  listings := "/api/listings"
  marketplaceSearch := "/api/marketplace?query=test"
  vendorComments := "/api/vendors/1/comments"
  groups := "/api/groups"
  userProfile := "/api/user/profile"
  latency := "/api/marketplace"
  invalid := "/api/invalid-endpoint"

def fieldNames : List String :=
  ["listings", "marketplace_search", "vendor_comments", "groups", "user_profile", "latency",
    "invalid"]

def ofNode? : Reader ApiPaths := fun n => do
  let f ← Fields.ofNode? fieldNames false n
  return {
    listings := ← f.getD "listings" .text standard.listings
    marketplaceSearch := ← f.getD "marketplace_search" .text standard.marketplaceSearch
    vendorComments := ← f.getD "vendor_comments" .text standard.vendorComments
    groups := ← f.getD "groups" .text standard.groups
    userProfile := ← f.getD "user_profile" .text standard.userProfile
    latency := ← f.getD "latency" .text standard.latency
    invalid := ← f.getD "invalid" .text standard.invalid }

def toNode (a : ApiPaths) : Node :=
  .table [("listings", .text a.listings), ("marketplace_search", .text a.marketplaceSearch),
    ("vendor_comments", .text a.vendorComments), ("groups", .text a.groups),
    ("user_profile", .text a.userProfile), ("latency", .text a.latency),
    ("invalid", .text a.invalid)]

end ApiPaths

namespace TestData

def standardPayload : Node :=
  .table [("title", .text "Test Item"), ("description", .text "Test Description"),
    ("price", .float 99.99)]

def standard : TestData where
  listingDetails := "Test listing item for automated testing"
  comment := "Test comment from automated testing"
  invalidEmail := "invalid-email-format"
  priceFilter := "100"
  negativePrice := "-100"
  listingPayload := standardPayload
  paths := SitePaths.standard
  api := ApiPaths.standard

def fieldNames : List String :=
  ["listing_details", "comment", "invalid_email", "price_filter", "negative_price",
    "listing_payload", "paths", "endpoints"]

def ofNode? : Reader TestData := fun n => do
  let f ← Fields.ofNode? fieldNames false n
  return {
    listingDetails := ← f.getD "listing_details" .text standard.listingDetails
    comment := ← f.getD "comment" .text standard.comment
    invalidEmail := ← f.getD "invalid_email" .text standard.invalidEmail
    priceFilter := ← f.getD "price_filter" .text standard.priceFilter
    negativePrice := ← f.getD "negative_price" .text standard.negativePrice
    listingPayload := ← f.getD "listing_payload" resolve standard.listingPayload
    paths := ← f.getD "paths" SitePaths.ofNode? standard.paths
    api := ← f.getD "endpoints" ApiPaths.ofNode? standard.api }

def toNode (d : TestData) : Node :=
  .table [("listing_details", .text d.listingDetails), ("comment", .text d.comment),
    ("invalid_email", .text d.invalidEmail), ("price_filter", .text d.priceFilter),
    ("negative_price", .text d.negativePrice), ("listing_payload", d.listingPayload),
    ("paths", d.paths.toNode), ("endpoints", d.api.toNode)]

end TestData

namespace Settings

def standard : Settings where
  baseUrl := none
  credentials := Credentials.none
  timeouts := Timeouts.standard
  screenshots := "screenshots"
  pacing := 1.0
  testData := TestData.standard

def fieldNames : List String :=
  ["base_url", "credentials", "timeouts", "screenshots_dir", "pacing_scale", "test_data"]

def ofNode? : Reader Settings := fun n => do
  let f ← Fields.ofNode? fieldNames false n
  return {
    baseUrl := ← f.getD "base_url" (.optional .url) none
    credentials := ← f.getD "credentials" Credentials.ofNode? standard.credentials
    timeouts := ← f.getD "timeouts" Timeouts.ofNode? standard.timeouts
    screenshots := ← f.getD "screenshots_dir" .text standard.screenshots
    pacing := ← f.getD "pacing_scale" .float standard.pacing
    testData := ← f.getD "test_data" TestData.ofNode? standard.testData }

def urlNode (u : Option Url) : Node :=
  ofText? (u.map (·.toText))

def toNode (s : Settings) : Node :=
  .table [("base_url", urlNode s.baseUrl), ("credentials", s.credentials.toNode),
    ("timeouts", s.timeouts.toNode), ("screenshots_dir", .text s.screenshots),
    ("pacing_scale", .float s.pacing), ("test_data", s.testData.toNode)]

/-- A scale below zero, or none at all, counts as zero. -/
def clampPacing (x : Float) : Float :=
  if 0.0 < x then x else 0.0

def withPacing (s : Settings) (x : Float) : Settings :=
  { s with pacing := clampPacing x }

end Settings

end Walkthrough
