import Walkthrough.Command.Standard
import Walkthrough.Proofs.Command.Catalogue
import Walkthrough.Proofs.Walk.Policy.Filling
import Walkthrough.Proofs.Walk.Policy.Visiting
import Walkthrough.Proofs.Walk.Run
import Walkthrough.Walk.Action.Perform

namespace Walkthrough

open Script

/-- In which kinds an action may fail. -/
def Action.failureKinds : Action → List String
  | checkStatus => ["status_mismatch", "assertion"]
  | clickText | clickButton | clickLink | typeInto | fillWith => ["required_element_missing"]
  | searchFor | openFirstItem | clickItemImage => ["required_element_missing"]
  | enterPhone | enterOtp => ["required_element_missing", "missing_configuration"]
  | enterPhoneWithCountry | login => ["missing_configuration"]
  | expectUrl | wait | checkLoadBudget => ["assertion"]
  | awaitText => ["timeout"]
  | openHomepage | openPath | goToCart | createListing => ["missing_configuration", "navigation"]
  | loadVendors | loadGroups | checkOut | probe _ => ["missing_configuration", "navigation"]
  | _ => []

theorem Action.fails (a : Action) (args : Arguments) :
    FailsOnly a.failureKinds (fun _ => True) (a.script args) := by
  cases a with
  | openHomepage => exact only_openHomepage (by decide) (by decide)
  | openPath => exact only_openPath (by decide) (by decide) args
  | goToCart | createListing | loadVendors | loadGroups =>
    exact only_visitPage (by decide) (by decide) _ _
  | checkStatus => exact only_checkStatus (by decide) (by decide) args
  | checkLoadTime => exact only_readLoadTime
  | checkConsole => exact only_readConsole
  | checkMissingResources => exact only_readMissingResources
  | visitMenu => exact only_visitMenu
  | checkBrokenImages => exact only_readBrokenImages
  | checkBrokenLinks => exact only_checkBrokenLinks
  | checkFavicon => exact only_readFavicon
  | checkImageSources => exact only_readImageSources
  | checkLoadBudget => exact only_readLoadBudget (by decide) args
  | countAssets => exact only_countAssets
  | clickText | clickButton | clickLink => exact only_clickFound (by decide) _
  | typeInto | fillWith => exact only_fillField (by decide) _ _
  | expectText => exact only_expectText args
  | expectUrl => exact only_expectUrl (by decide) args
  | awaitText => exact only_awaitText (by decide) args
  | wait => exact only_wait (by decide) args
  | takeScreenshot => exact only_takeScreenshot args
  | enterPhone => exact only_enterPhone (by decide) (by decide) args
  | enterPhoneWithCountry => exact only_enterPhoneWithCountry (by decide) args
  | login => exact only_login (by decide)
  | enterOtp => exact only_enterOtp (by decide) (by decide) args
  | verifyOtp => exact only_verifyOtp
  | searchFor => exact only_searchFor (by decide) args
  | openFirstItem | clickItemImage => exact only_openFound (by decide) _ _ _
  | addToCart => exact only_addToCart
  | checkOut => exact only_checkOut (by decide) (by decide)
  | browseItems => exact only_browseItems
  | filterByPrice => exact only_filterByPrice
  | turnCarousel => exact only_turnCarousel
  | readSeller => exact only_readSeller
  | readDescription => exact only_readDescription
  | addTwice => exact only_addTwice
  | readSuccess => exact only_readSuccess
  | submitInvalidEmail => exact only_submitInvalidEmail
  | readConfirmation => exact only_readConfirmation
  | submitEmptyForm => exact only_submitEmptyForm
  | countErrors => exact only_countErrors
  | countFields => exact only_countFields
  | findFileInput => exact only_findFileInput
  | enterDetails => exact only_enterDetails
  | findListing => exact only_findListing
  | enterNegativePrice => exact only_enterNegativePrice
  | deleteListing => exact only_deleteListing
  | submitComment => exact only_submitComment
  | joinOrLeaveGroup => exact only_joinOrLeaveGroup
  | countFeed => exact only_countFeed
  | findPagination => exact only_findPagination
  | readModeration => exact only_readModeration
  | probe endpoint => exact only_probe (List.mem_cons_self) (by simp) endpoint
  | nameDevice => exact only_nameDevice args
  | readViewport => exact only_readViewport
  | clickButtonContaining | requestOtp | completePurchase | sortItems | removeFromCart | submitForm
  | submitListing | requestDescription | editListing | saveChanges | confirmPopup | notifyGroup
  | openVendor | postInGroup | openCommentMenu => exact only_clickIfFound _ _ _

def Effect.failureKinds : Effect → List String
  | act a => a.failureKinds
  | note _ | heading => []

theorem Effect.fails (e : Effect) (args : Arguments) :
    FailsOnly e.failureKinds (fun _ => True) (e.script args) := by
  cases e with
  | act a => exact a.fails args
  | note | heading => exact only_pure _

namespace Catalogue

/-- The commands whose steps may fail, by name, each with the kinds of its failures. -/
def failing : List (String × List String) :=
  [("check status", ["status_mismatch", "assertion"]),
   ("click", ["required_element_missing"]),
   ("click button", ["required_element_missing"]),
   ("click link", ["required_element_missing"]),
   ("type into", ["required_element_missing"]),
   ("fill with", ["required_element_missing"]),
   ("search for", ["required_element_missing"]),
   ("click on first item", ["required_element_missing"]),
   ("click on item image", ["required_element_missing"]),
   ("enter phone", ["required_element_missing", "missing_configuration"]),
   ("enter otp", ["required_element_missing", "missing_configuration"]),
   ("enter phone with country code", ["missing_configuration"]),
   ("login", ["missing_configuration"]),
   ("expect url contains", ["assertion"]),
   ("wait", ["assertion"]),
   ("page load budget", ["assertion"]),
   ("wait for", ["timeout"]),
   -- what goes to a configured page or probes one
   ("open", ["missing_configuration", "navigation"]),
   ("open homepage", ["missing_configuration", "navigation"]),
   ("proceed to checkout", ["missing_configuration", "navigation"]),
   ("go to cart page", ["missing_configuration", "navigation"]),
   ("create listing", ["missing_configuration", "navigation"]),
   ("load vendor list", ["missing_configuration", "navigation"]),
   ("load groups list", ["missing_configuration", "navigation"]),
   ("non-existent product url", ["missing_configuration", "navigation"]),
   ("listing creation", ["missing_configuration", "navigation"]),
   ("marketplace search", ["missing_configuration", "navigation"]),
   ("vendor comments", ["missing_configuration", "navigation"]),
   ("groups api", ["missing_configuration", "navigation"]),
   ("user profile api", ["missing_configuration", "navigation"]),
   ("api latency check", ["missing_configuration", "navigation"]),
   ("400 errors", ["missing_configuration", "navigation"]),
   ("response times", ["missing_configuration", "navigation"])]

def failureKinds (name : String) : List String :=
  (failing.lookup name).getD []

theorem failureKinds_of_mem {c : Command} (hc : c ∈ standard) :
    c.effect.failureKinds ⊆ failureKinds c.name := by
  have hrows : standardRows.all fun r => r.2.2.failureKinds.all (failureKinds r.1).contains := by
    decide
  obtain ⟨r, hr, hname, heffect⟩ := row_of_mem hc
  have hrow := List.all_eq_true.mp hrows r hr
  intro kind hkind
  rw [heffect] at hkind
  rw [hname]
  exact List.contains_iff_mem.mp (List.all_eq_true.mp hrow kind hkind)

end Catalogue

/-- The record of a failure of a kind. -/
def StepRecord.FailsAs (r : StepRecord) (kind : String) : Prop :=
  r.status = .failed ∧ (kind ++ ": ").toList <+: r.message.toList

instance (r : StepRecord) (kind : String) : Decidable (r.FailsAs kind) :=
  inferInstanceAs (Decidable (r.status = .failed ∧ _))

/-- A message tells its kind up to the first colon. -/
theorem StepRecord.FailsAs.takeWhile_message {r : StepRecord} {kind : String} (h : r.FailsAs kind)
    (hkind : ':' ∉ kind.toList) : r.message.toList.takeWhile (· != ':') = kind.toList := by
  obtain ⟨rest, hrest⟩ := h.2
  have hcolon : ": ".toList = [':', ' '] := String.toList_ofList
  rw [← hrest, String.toList_append, hcolon, List.append_assoc, List.takeWhile_append_of_pos]
  · simp
  · intro ch hch
    simpa using fun heq : ch = ':' => hkind (heq ▸ hch)

theorem StepRecord.FailsAs.unique {r : StepRecord} {kind kind' : String} (h : r.FailsAs kind)
    (h' : r.FailsAs kind') (hkind : ':' ∉ kind.toList) (hkind' : ':' ∉ kind'.toList) :
    kind = kind' := by
  have hsame := (h.takeWhile_message hkind).symm.trans (h'.takeWhile_message hkind')
  exact String.toList_inj.mp hsame

/-- A record as the policy for failures has it: what a browser or a search reports never fails a
step, and besides the step that the deadline cuts short, a step only fails where its command may,
in a kind that its command may fail in. -/
structure StepRecord.FollowsPolicy (r : StepRecord) : Prop where
  not_browser : ¬ r.FailsAs "browser"
  not_locator : ¬ r.FailsAs "locator"
  of_failed : r.status = .failed → r.IsOverdue ∨
    ∃ name, r.command = some name ∧ ∃ kind ∈ Catalogue.failureKinds name, r.FailsAs kind

theorem StepRecord.followsPolicy_of_not_failed {r : StepRecord} (h : r.status ≠ .failed) :
    r.FollowsPolicy :=
  ⟨fun hr => h hr.1, fun hr => h hr.1, fun hr => absurd hr h⟩

theorem StepError.colon_not_mem_kind (e : StepError) : ':' ∉ e.kind.toList := by
  cases e <;> simp only [kind] <;> decide

theorem Catalogue.not_mem_failureKinds {kind : String} (h : kind = "browser" ∨ kind = "locator")
    (name : String) : kind ∉ failureKinds name := by
  have hrows : failing.all fun row => row.2.all fun k => k != "browser" && k != "locator" := by
    decide
  intro hmem
  unfold failureKinds at hmem
  cases hlookup : failing.lookup name with
  | none =>
    rw [hlookup] at hmem
    contradiction
  | some kinds =>
    rw [hlookup] at hmem
    obtain ⟨front, back, hsplit, -⟩ := List.lookup_eq_some_iff.mp hlookup
    have hrow : (name, kinds) ∈ failing := hsplit ▸ List.mem_append_right _ List.mem_cons_self
    have hkind := List.all_eq_true.mp (List.all_eq_true.mp hrows _ hrow) kind hmem
    rcases h with rfl | rfl <;> contradiction

theorem StepRecord.followsPolicy_of_error {r : StepRecord} {name : String} {e : StepError}
    (hcommand : r.command = some name) (hstatus : r.status = .failed)
    (hmessage : r.message = e.toOutcome.message) (he : e.kind ∈ Catalogue.failureKinds name) :
    r.FollowsPolicy := by
  have hfails : r.FailsAs e.kind := by
    refine ⟨hstatus, ?_⟩
    rw [hmessage]
    unfold StepError.toOutcome
    dsimp only
    rw [String.toList_append (s := e.kind ++ ": ")]
    exact List.prefix_append _ _
  have hother {kind : String} (hkind : ':' ∉ kind.toList)
      (h : kind = "browser" ∨ kind = "locator") : ¬ r.FailsAs kind := fun hr => by
    -- the message tells one kind only, which would have to be one of the command
    obtain rfl := hr.unique hfails hkind e.colon_not_mem_kind
    exact Catalogue.not_mem_failureKinds h name he
  exact ⟨hother (by decide) (.inl rfl), hother (by decide) (.inr rfl),
    fun _ => .inr ⟨name, hcommand, e.kind, he, hfails⟩⟩

theorem StepRecord.IsOverdue.followsPolicy {r : StepRecord} (h : r.IsOverdue) :
    r.FollowsPolicy := by
  have htimeout : r.FailsAs "timeout" := by
    refine ⟨h.1, List.IsPrefix.trans ?_ h.2⟩
    decide
  refine ⟨fun hr => ?_, fun hr => ?_, fun _ => .inl h⟩
  · exact absurd (hr.unique htimeout (by decide) (by decide)) (by decide)
  · exact absurd (hr.unique htimeout (by decide) (by decide)) (by decide)

namespace Course

variable {c : Course}

theorem followsPolicy_runStep (hc : c.catalogue = Catalogue.standard) {d : Option Nat}
    {step : Step} {s : Stage Browser} {r : StepRecord} (h : (c.runStep d step s).1 = some r) :
    r.FollowsPolicy := by
  obtain ⟨-, rfl⟩ | ⟨command, args, latency, hfind, hends⟩ := runStep_cases h
  · exact StepRecord.followsPolicy_of_not_failed nofun
  · obtain ⟨o, -, hregular, rfl⟩ | ⟨e, hresult, rfl⟩ := hends
    · refine StepRecord.followsPolicy_of_not_failed fun hfailed : o.status = .failed => ?_
      unfold Outcome.Regular at hregular
      rw [hfailed] at hregular
      exact absurd hregular (by decide)
    · have hcommand : command ∈ Catalogue.standard := hc ▸ (Catalogue.mem_of_find? hfind).1
      have hkind : e.kind ∈ command.effect.failureKinds :=
        (command.effect.fails args).kind_mem trivial (Procedure.finish_of_run hresult)
      exact StepRecord.followsPolicy_of_error rfl rfl rfl
        (Catalogue.failureKinds_of_mem hcommand hkind)

theorem followsPolicy_runSteps (hc : c.catalogue = Catalogue.standard) {d : Option Nat}
    {steps : List Step} {s : Stage Browser} {r : StepRecord}
    (hr : r ∈ (c.runSteps d steps s).1) : r.FollowsPolicy := by
  have hall := forall₂_runSteps (R := fun _ r => r.FollowsPolicy) d
    (fun _ _ _ => followsPolicy_runStep hc)
    (fun step _ _ => (c.overdue_isOverdue step).followsPolicy)
    (fun _ => StepRecord.followsPolicy_of_not_failed nofun) steps s
  obtain ⟨_, -, hfollows⟩ := exists_of_mem_forall₂ hall.flip hr
  exact hfollows

theorem isSome_runStep_none (c : Course) (step : Step) (s : Stage Browser) :
    (c.runStep none step s).1.isSome := by
  cases hfind : c.catalogue.find? step.text with
  | none =>
    rw [runStep_of_none hfind]
    rfl
  | some found =>
    rw [runStep_of_some hfind, Option.isSome_map]
    exact Procedure.isSome_run_none _ s

/-- With a browser in memory every step that no deadline cuts short comes to a record of its own.
Whatever the pages look like, neither what the browser nor what a search reports fails a step of
the standard commands, and a step fails only in the kinds that its command may fail in. -/
theorem failures_follow_policy (hc : c.catalogue = Catalogue.standard) (s : Stage Browser) :
    (∀ step, (c.runStep none step s).1.isSome) ∧
      (∀ d step r, (c.runStep d step s).1 = some r → r.FollowsPolicy ∧ ¬ r.IsOverdue) ∧
      ∀ steps, ∀ r ∈ (c.run steps s).1, r.FollowsPolicy :=
  ⟨fun step => c.isSome_runStep_none step s,
    fun _ _ _ h => ⟨followsPolicy_runStep hc h, (isOf_runStep h).not_overdue⟩,
    fun _ _ hr => followsPolicy_runSteps hc hr⟩

/-- On a blank page the click on what is not there fails the step, adding to the cart only warns. -/
theorem failures_follow_policy_blank :
    let c : Course := ⟨Catalogue.standard, Settings.standard, CaptureLimits.standard, 0⟩
    let s : Stage Browser := ⟨Browser.start Site.empty, 0, none⟩
    let steps : List Step := [⟨1, "click \"Buy\"", 1⟩, ⟨2, "add to cart", 2⟩]
    let missed : StepRecord := ⟨1, "click \"Buy\"", some "click", .failed,
      "required_element_missing: required element not found: " ++
        "clickable \"Buy\" (4 strategies exhausted)", 0⟩
    let warned : StepRecord := ⟨2, "add to cart", some "add to cart", .warned,
      "add to cart button not found, skipped", 0⟩
    c.catalogue = Catalogue.standard ∧ (c.run steps s).1 = [missed, warned] ∧
      missed.FailsAs "required_element_missing" ∧ missed.FollowsPolicy ∧ warned.FollowsPolicy := by
  intro c s steps missed warned
  have hrun : (c.run steps s).1 = [missed, warned] := by decide +kernel
  have hpolicy : ∀ r ∈ (c.run steps s).1, r.FollowsPolicy := (failures_follow_policy rfl s).2.2 steps
  rw [hrun] at hpolicy
  have hfails : missed.FailsAs "required_element_missing" := by decide +kernel
  exact ⟨rfl, hrun, hfails, hpolicy missed (by simp), hpolicy warned (by simp)⟩

end Course

end Walkthrough
