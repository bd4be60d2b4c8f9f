import Walkthrough.Browser.Rig
import Walkthrough.FileTree
import Walkthrough.Main
import Walkthrough.Proofs.Command.Routing
import Walkthrough.Proofs.Walk.Accounting
import Walkthrough.Proofs.Walk.Deadline
import Walkthrough.Proofs.Walk.Observers
import Walkthrough.Proofs.Browser.Trail
import Walkthrough.Proofs.Browser.Handles
import Walkthrough.Proofs.Walk.Invariant
import Walkthrough.Proofs.Walk.LastVisit
import Walkthrough.Proofs.Command.LastNumber
import Walkthrough.Proofs.Command.StatusLine
import Walkthrough.Proofs.Walk.StatusCheck
import Walkthrough.Proofs.Walk.Policy.Elements
import Walkthrough.Proofs.Walk.Policy.Clicking
import Walkthrough.Proofs.Walk.Policy.Filling
import Walkthrough.Proofs.Walk.Policy.Observing
import Walkthrough.Proofs.Walk.Policy.Visiting
import Walkthrough.Proofs.Walk.Policy.Standard
import Walkthrough.Proofs.Walk.Coverage
import Walkthrough.Proofs.Pattern.Groups
import Walkthrough.Proofs.Pattern.Parting
import Walkthrough.Proofs.Pattern.Framing
import Walkthrough.Proofs.Text.Lines
import Walkthrough.Proofs.Text.Numeral
import Walkthrough.Proofs.Text.Trimming
import Walkthrough.Proofs.Phrasing.Understood
import Walkthrough.Proofs.Phrasing.Stability
import Walkthrough.Proofs.Phrasing.Wording
import Walkthrough.Proofs.Phrasing.Idempotence
import Walkthrough.Proofs.Phrasing.Expansion
import Walkthrough.Proofs.StepFile.Reload
import Walkthrough.Proofs.StepFile.Reading
import Walkthrough.Proofs.StepFile.Layout
import Walkthrough.Proofs.StepFile.Scoping
import Walkthrough.Proofs.Text.Lowercase
import Walkthrough.Proofs.Page.Wording
import Walkthrough.Proofs.Text.Search
import Walkthrough.Proofs.Capture
import Walkthrough.Browser.Audience
import Walkthrough.Proofs.Browser.Audience
import Walkthrough.Proofs.Walk.Atomicity
import Walkthrough.Proofs.Command.Numbers
import Walkthrough.Proofs.Walk.Credentials
import Walkthrough.Proofs.Page.Selector.Matching
import Walkthrough.Proofs.Page.Selector.Printing
import Walkthrough.Proofs.Page.Selector.RoundTrip
import Walkthrough.Proofs.Walk.Extension
import Walkthrough.Proofs.Text.FilePath
import Walkthrough.Proofs.Walk.Calls
import Walkthrough.Proofs.Walk.Pictures
import Walkthrough.Proofs.Page.Content
import Walkthrough.Proofs.Page.Innermost
import Walkthrough.Proofs.Page.Preorder
import Walkthrough.Proofs.Page.Reading
import Walkthrough.Proofs.Walk.ShownText
import Walkthrough.Proofs.Page.Selector.Continuation
import Walkthrough.Proofs.Page.Selector.Grammar
import Walkthrough.Proofs.Page.Selector.Composition
import Walkthrough.Proofs.Page.Selector.Conjunction
import Walkthrough.Proofs.Walk.Search
import Walkthrough.Proofs.Walk.Oracle
import Walkthrough.Proofs.Walk.Polling
import Walkthrough.Proofs.Walk.Fallback
import Walkthrough.Proofs.Pattern.Greedy
import Walkthrough.Proofs.Command.QuotedPair
import Walkthrough.Proofs.Walk.FillCommands
import Walkthrough.Proofs.Browser.Selecting
import Walkthrough.Proofs.Walk.Exchange
import Walkthrough.Proofs.Walk.Links
import Walkthrough.Proofs.Walk.Menu
import Walkthrough.Proofs.Walk.Items
import Walkthrough.Proofs.Walk.NumberArguments
import Walkthrough.Proofs.Configuration
import Walkthrough.Proofs.Document.Json
import Walkthrough.Proofs.Document.Record
import Walkthrough.Proofs.Settings
import Walkthrough.Proofs.CoverageReport
