namespace Walkthrough

inductive Endpoint
  | listings
  | marketplaceSearch
  | vendorComments
  | groups
  | userProfile
  | latency
  | invalid
  | missingProduct
  deriving Repr, DecidableEq

/-- The automated actions, by workflow. -/
inductive Action
  -- navigation
  | openHomepage
  | openPath
  | goToCart
  | createListing
  | loadVendors
  | loadGroups
  -- page checks
  | checkStatus
  | checkLoadTime
  | checkConsole
  | checkMissingResources
  | visitMenu
  | checkBrokenImages
  | checkBrokenLinks
  | checkFavicon
  | checkImageSources
  | checkLoadBudget
  | countAssets
  -- plain interaction
  | clickText
  | clickButton
  | clickButtonContaining
  | clickLink
  | typeInto
  | fillWith
  | expectText
  | expectUrl
  | awaitText
  | wait
  | takeScreenshot
  -- login
  | enterPhone
  | enterPhoneWithCountry
  | login
  | enterOtp
  | requestOtp
  | verifyOtp
  -- marketplace
  | searchFor
  | openFirstItem
  | clickItemImage
  | addToCart
  | checkOut
  | completePurchase
  | browseItems
  | filterByPrice
  | sortItems
  | removeFromCart
  | turnCarousel
  | readSeller
  | readDescription
  | addTwice
  -- forms
  | submitForm
  | readSuccess
  | submitInvalidEmail
  | readConfirmation
  | submitEmptyForm
  | countErrors
  | countFields
  -- listings
  | findFileInput
  | enterDetails
  | submitListing
  | findListing
  | enterNegativePrice
  | requestDescription
  | editListing
  | saveChanges
  | deleteListing
  | confirmPopup
  -- community
  | notifyGroup
  | openVendor
  | submitComment
  | joinOrLeaveGroup
  | postInGroup
  | countFeed
  | findPagination
  | readModeration
  | openCommentMenu
  -- probes and environment
  | probe (endpoint : Endpoint)
  | nameDevice
  | readViewport
  deriving Repr, DecidableEq

/-- What becomes of a line that a command matches. -/
inductive Effect
  | act (action : Action)
  /-- Recognised and acknowledged, but not automated. -/
  | note (category : String)
  /-- A heading of the outline. -/
  | heading
  deriving Repr, DecidableEq

end Walkthrough
