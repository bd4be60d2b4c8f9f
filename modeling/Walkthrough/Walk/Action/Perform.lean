import Walkthrough.Walk.Action.Filling
import Walkthrough.Walk.Action.Observing
import Walkthrough.Walk.Action.Probing
import Walkthrough.Walk.Action.Visiting
import Walkthrough.Walk.Action.Waiting

namespace Walkthrough

def Action.script (args : Arguments) : Action → Script Outcome
  | openHomepage => Script.openHomepage
  | openPath => Script.openPath args
  | goToCart => Script.visitPage (·.cart) 1000
  | createListing => Script.visitPage (·.createListing) 1500
  | loadVendors => Script.visitPage (·.vendors) 1500
  | loadGroups => Script.visitPage (·.groups) 1000
  | checkStatus => Script.checkStatus args
  | checkLoadTime => Script.readLoadTime
  | checkConsole => Script.readConsole
  | checkMissingResources => Script.readMissingResources
  | visitMenu => Script.visitMenu
  | checkBrokenImages => Script.readBrokenImages
  | checkBrokenLinks => Script.checkBrokenLinks
  | checkFavicon => Script.readFavicon
  | checkImageSources => Script.readImageSources
  | checkLoadBudget => Script.readLoadBudget args
  | countAssets => Script.countAssets
  | clickText => Script.clickText args
  | clickButton => Script.clickButton args
  | clickButtonContaining => Script.clickButtonContaining args
  | clickLink => Script.clickLink args
  | typeInto => Script.typeInto args
  | fillWith => Script.fillWith args
  | expectText => Script.expectText args
  | expectUrl => Script.expectUrl args
  | awaitText => Script.awaitText args
  | wait => Script.wait args
  | takeScreenshot => Script.takeScreenshot args
  | enterPhone => Script.enterPhone args
  | enterPhoneWithCountry => Script.enterPhoneWithCountry args
  | login => Script.login
  | enterOtp => Script.enterOtp args
  | requestOtp => Script.requestOtp
  | verifyOtp => Script.verifyOtp
  | searchFor => Script.searchFor args
  | openFirstItem => Script.openFirstItem
  | clickItemImage => Script.clickItemImage
  | addToCart => Script.addToCart
  | checkOut => Script.checkOut
  | completePurchase => Script.completePurchase
  | browseItems => Script.browseItems
  | filterByPrice => Script.filterByPrice
  | sortItems => Script.sortItems
  | removeFromCart => Script.removeFromCart
  | turnCarousel => Script.turnCarousel
  | readSeller => Script.readSeller
  | readDescription => Script.readDescription
  | addTwice => Script.addTwice
  | submitForm => Script.submitForm
  | readSuccess => Script.readSuccess
  | submitInvalidEmail => Script.submitInvalidEmail
  | readConfirmation => Script.readConfirmation
  | submitEmptyForm => Script.submitEmptyForm
  | countErrors => Script.countErrors
  | countFields => Script.countFields
  | findFileInput => Script.findFileInput
  | enterDetails => Script.enterDetails
  | submitListing => Script.submitListing
  | findListing => Script.findListing
  | enterNegativePrice => Script.enterNegativePrice
  | requestDescription => Script.requestDescription
  | editListing => Script.editListing
  | saveChanges => Script.saveChanges
  | deleteListing => Script.deleteListing
  | confirmPopup => Script.confirmPopup
  | notifyGroup => Script.notifyGroup
  | openVendor => Script.openVendor
  | submitComment => Script.submitComment
  | joinOrLeaveGroup => Script.joinOrLeaveGroup
  | postInGroup => Script.postInGroup
  | countFeed => Script.countFeed
  | findPagination => Script.findPagination
  | readModeration => Script.readModeration
  | openCommentMenu => Script.openCommentMenu
  | probe endpoint => Script.probe endpoint
  | nameDevice => Script.nameDevice args
  | readViewport => Script.readViewport

def Effect.script (args : Arguments) : Effect → Script Outcome
  | act action => action.script args
  | note category => return ⟨.acknowledged, category ++ " check noted, not automated"⟩
  | heading => return ⟨.heading, args.line⟩

end Walkthrough
