import Walkthrough.Command.Catalogue

namespace Walkthrough.Catalogue

def standardRows : List (String × String × Effect) :=
  [("open homepage", "^open homepage$", .act .openHomepage),
   ("open", "^open\\s+(https?://\\S+|/\\S*)$", .act .openPath),
   ("check status", "^check status\\s+(\\d\x7b3\x7d)$", .act .checkStatus),
   ("check loadtime", "^check loadtime$", .act .checkLoadTime),
   ("check console", "^check console$", .act .checkConsole),
   ("check missing-resources", "^check missing-resources$", .act .checkMissingResources),
   ("click each menu item", "^click each menu item$", .act .visitMenu),
   ("check broken-images", "^check broken-images$", .act .checkBrokenImages),
   ("check broken-links", "^check broken-links$", .act .checkBrokenLinks),
   ("check favicon-meta", "^check favicon-meta$", .act .checkFavicon),
   ("click", "^click\\s+\"(.+)\"$", .act .clickText),
   ("click button", "^click button\\s+\"(.+)\"$", .act .clickButton),
   ("click button containing",
      "^click button containing\\s+\"(.+)\"$",
      .act .clickButtonContaining),
   ("click link", "^click link\\s+\"(.+)\"$", .act .clickLink),
   ("type into", "^type\\s+\"(.+)\"\\s+into\\s+\"(.+)\"$", .act .typeInto),
   ("fill with", "^fill\\s+\"(.+)\"\\s+with\\s+\"(.+)\"$", .act .fillWith),
   ("expect page to contain", "^expect page to contain\\s+\"(.+)\"$", .act .expectText),
   ("expect url contains", "^expect url contains\\s+\"(.+)\"$", .act .expectUrl),
   ("wait for", "^wait for\\s+\"(.+)\"$", .act .awaitText),
   ("wait", "^wait\\s+(\\d+)$", .act .wait),
   ("screenshot", "^screenshot\\s+\"(.+)\"$", .act .takeScreenshot),
   ("enter phone", "^enter phone(?:\\s+(\\d+))?$", .act .enterPhone),
   ("enter phone with country code",
      "^enter phone with country code(?:\\s+(\\d+))?(?:\\s+(\\d+))?$",
      .act .enterPhoneWithCountry),
   ("login", "^(?:default )?login(?: with default credentials)?$", .act .login),
   ("enter otp", "^enter otp(?:\\s+(\\d+))?$", .act .enterOtp),
   ("search for", "^search\\s+for\\s+\"(.+)\"$", .act .searchFor),
   ("click on first item", "^click on first item$", .act .openFirstItem),
   ("click on item image", "^click on item image$", .act .clickItemImage),
   ("add to cart", "^add to cart$", .act .addToCart),
   ("proceed to checkout", "^proceed to checkout$", .act .checkOut),
   ("complete purchase", "^complete purchase$", .act .completePurchase),
   ("iterate through items", "^iterate through items$", .act .browseItems),
   ("apply price filter", "^apply price filter$", .act .filterByPrice),
   ("sort items", "^sort items$", .act .sortItems),
   ("remove from cart", "^remove from cart$", .act .removeFromCart),
   ("go to cart page", "^go to cart page$", .act .goToCart),
   ("submit form", "^submit (?:empty )?form$", .act .submitForm),
   ("validate success", "^validate success.*$", .act .readSuccess),
   ("create listing", "^create listing.*$", .act .createListing),
   ("upload images", "^upload images$", .act .findFileInput),
   ("enter details", "^enter details$", .act .enterDetails),
   ("submit listing", "^submit listing$", .act .submitListing),
   ("validate listing appears", "^validate listing appears$", .act .findListing),
   ("click notify group", "^click notify group$", .act .notifyGroup),
   ("load vendor list", "^load vendor list$", .act .loadVendors),
   ("open a vendor", "^open a vendor$", .act .openVendor),
   ("submit comment", "^submit comment$", .act .submitComment),
   ("image carousel test", "^image carousel test$", .act .turnCarousel),
   ("seller info test", "^seller info test$", .act .readSeller),
   ("description load", "^description load$", .act .readDescription),
   ("add same item twice", "^add same item twice$", .act .addTwice),
   ("section marker",
      "^(listings|cart testing|edge cases|phase \\d+|my listings testing|edit/delete listing|notify group|contact us|bug report form|api testing|performance testing|cross-browser testing|device testing|security testing|post deployment testing)[:–]?$",
      .heading),
   ("negative price", "^negative price$", .act .enterNegativePrice),
   ("missing images", "^missing images$", .act .checkImageSources),
   ("non-existent product url", "^non-existent product url$", .act (.probe .missingProduct)),
   ("ai description", "^ai description$", .act .requestDescription),
   ("edit listing", "^edit listing$", .act .editListing),
   ("save changes", "^save changes$", .act .saveChanges),
   ("delete listing", "^delete listing$", .act .deleteListing),
   ("confirm popup", "^confirm popup$", .act .confirmPopup),
   ("load groups list", "^load groups list$", .act .loadGroups),
   ("join/leave group", "^join/leave group$", .act .joinOrLeaveGroup),
   ("post listing in group", "^post listing in group$", .act .postInGroup),
   ("validate feed", "^validate feed$", .act .countFeed),
   ("pagination check", "^pagination check$", .act .findPagination),
   ("validate moderation", "^validate moderation$", .act .readModeration),
   ("delete/edit comment", "^delete/edit comment$", .act .openCommentMenu),
   ("submit invalid email", "^submit invalid email$", .act .submitInvalidEmail),
   ("successful submission", "^successful submission$", .act .readConfirmation),
   ("missing fields", "^missing fields$", .act .submitEmptyForm),
   ("validation check", "^validation check$", .act .countErrors),
   ("otp generation", "^otp generation$", .act .requestOtp),
   ("otp verify", "^otp verify$", .act .verifyOtp),
   ("listing creation", "^listing creation$", .act (.probe .listings)),
   ("marketplace search", "^marketplace search$", .act (.probe .marketplaceSearch)),
   ("vendor comments", "^vendor comments$", .act (.probe .vendorComments)),
   ("upload service", "^upload service$", .note "upload service"),
   ("groups api", "^groups api$", .act (.probe .groups)),
   ("user profile api", "^user profile api$", .act (.probe .userProfile)),
   ("http status", "^http (\\d\x7b3\x7d)$", .note "http status check"),
   ("page load budget", "^page load < ([\\d.]+) seconds$", .act .checkLoadBudget),
   ("lighthouse score", "^lighthouse score$", .note "lighthouse audit"),
   ("build optimization",
      "^(optimize images|minify css|minify js|check caching)$",
      .note "build analysis"),
   ("api latency check", "^api latency check$", .act (.probe .latency)),
   ("browser or device",
      "^(chrome|firefox|safari|edge|iphone|android|ipad|laptop|desktop)$",
      .act .nameDevice),
   ("visual check",
      "^(layout differences|font issues|button alignment|animations|responsive grids|touch interactions|navigation menu)$",
      .note "visual regression"),
   ("security check",
      "^(sql injection checks|xss injection checks|csrf protection|session expiration|brute-force otp attempts|exposed endpoints|open redirect issues)$",
      .note "security scanning"),
   ("post-deployment check",
      "^(uptime monitoring|cloudwatch error logs|otp error rate|ecs task stability|cdn cache behavior|storage testing on aws efs|run nightly automated tests)$",
      .note "infrastructure monitoring"),
   ("phase heading", "^phase \\d+[\\s–:-].*$", .heading),
   ("section header", "^(test endpoints|check|devices)[:–]?$", .heading),
   ("400 errors", "^400 errors$", .act (.probe .invalid)),
   ("500 errors", "^500 errors$", .note "backend error scenario"),
   ("response times", "^response times$", .act (.probe .latency)),
   ("minify css/js", "^minify css/js$", .act .countAssets),
   ("iphone 14/15", "^iphone 14/15$", .act .nameDevice),
   ("android phones", "^android phones$", .act .nameDevice),
   ("laptop + desktop monitors", "^laptop \\+ desktop monitors$", .act .readViewport),
   ("form validation", "^form validation$", .act .countFields)]

def standard : Catalogue :=
  standardRows.filterMap fun (name, pattern, effect) => (Command.ofText name pattern effect).toOption

end Walkthrough.Catalogue
