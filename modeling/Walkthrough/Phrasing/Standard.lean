import Walkthrough.Phrasing.Rephrasing

namespace Walkthrough.Phrasebook

def standardPhrases : List (String × String) :=
  [("^load homepage$", "open homepage"),
   ("^take full-?page screenshot$", "screenshot \"full_page\""),
   ("^go to login page$", "open /login"),
   ("^open product detail$", "open /garage-sale/marketplace"),
   ("^verify http status is (\\d\x7b3\x7d)$", "check status $1"),
   ("^check page load time$", "check loadtime"),
   ("^confirm no javascript console errors$", "check console"),
   ("^check missing css/?js resources$", "check missing-resources"),
   ("^click each menu item$", "click each menu item"),
   ("^check broken images$", "check broken-images"),
   ("^check broken links$", "check broken-links"),
   ("^verify favicon and metadata load$", "check favicon-meta"),
   ("^wait (\\d+) ?ms$", "wait $1"),
   ("^take screenshot \"(.+)\"$", "screenshot \"$1\""),
   ("^verify page contains \"(.+)\"$", "expect page to contain \"$1\""),
   ("^verify url contains \"(.+)\"$", "expect url contains \"$1\""),
   ("^search \"(.+)\"$", "search for \"$1\""),
   ("^go to cart$", "go to cart page")]

def standard : Phrasebook :=
  standardPhrases.filterMap fun (pattern, template) => (Rephrasing.ofText pattern template).toOption

end Walkthrough.Phrasebook
