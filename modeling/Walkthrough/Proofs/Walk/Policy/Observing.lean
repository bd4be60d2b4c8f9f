import Walkthrough.Proofs.Walk.Policy.Elements
import Walkthrough.Walk.Action.Observing

namespace Walkthrough.Script

variable {kinds : List String} {P : Browser → Prop}

theorem only_answered {c : Call} {next : c.Answer → Script α} (answer : Browser → c.Answer)
    (hc : ∀ b : Browser, b.respond c = (.ok (answer b), b))
    (hnext : ∀ a, FailsOnly kinds P (next a)) : FailsOnly kinds P (call c >>= next) := by
  refine (meets_call (Q := fun _ => P) fun b hb => ?_).bind hnext
  rw [hc b]
  exact ⟨_, rfl, hb⟩

theorem only_readLoadTime : FailsOnly kinds P readLoadTime :=
  only_answered (·.page.timing) (fun _ => rfl) fun _ => only_pure _

theorem only_readConsole : FailsOnly kinds P readConsole :=
  only_read fun _ => only_ite (only_pure _) (only_pure _)

theorem only_readMissingResources : FailsOnly kinds P readMissingResources :=
  only_read fun _ => only_ite (only_pure _) (only_pure _)

theorem only_readLoadBudget (hk : "assertion" ∈ kinds) (args : Arguments) :
    FailsOnly kinds P (readLoadBudget args) := by
  unfold readLoadBudget
  split
  · refine only_answered (·.page.timing) (fun _ => rfl) fun timing => ?_
    exact only_ite (only_pure _) (only_pure _)
  · exact only_throw hk

theorem only_readBrokenImages : FailsOnly kinds P readBrokenImages :=
  only_answered (·.imageStates) (fun _ => rfl) fun _ => only_ite (only_pure _) (only_pure _)

theorem only_readImageSources : FailsOnly kinds P readImageSources :=
  only_answered (·.imageStates) (fun _ => rfl) fun _ => only_ite (only_pure _) (only_pure _)

theorem only_firstAttribute {selector : String} (hs : (Selector.parse selector).toOption.isSome)
    (name : String) : FailsOnly kinds P (firstAttribute selector name) := by
  refine only_query (Query.answered_css hs none) fun found => ?_
  cases found with
  | nil => exact only_pure _
  | cons h rest =>
    exact (meets_ofElement (fun b => b.page.attribute? h.id name) (fun _ => rfl)
      fun b hb => hb h List.mem_cons_self).only

theorem only_readFavicon : FailsOnly kinds P readFavicon := by
  refine (only_firstAttribute ?_ _).bind fun favicon => ?_
  · decide
  refine (only_firstAttribute ?_ _).bind fun viewport => only_pure _
  decide

theorem only_countAssets : FailsOnly kinds P countAssets := by
  refine only_count ?_ fun styles => only_count ?_ fun scripts => only_pure _
  · decide
  · decide

theorem only_findFileInput : FailsOnly kinds P findFileInput := by
  refine only_count ?_ fun n => only_ite (only_pure _) (only_pure _)
  decide

theorem only_findListing : FailsOnly kinds P findListing := by
  refine only_count ?_ fun n => only_ite (only_pure _) (only_pure _)
  decide

theorem only_countFeed : FailsOnly kinds P countFeed := by
  refine only_count ?_ fun n => only_pure _
  decide

theorem only_countErrors : FailsOnly kinds P countErrors := by
  refine only_count ?_ fun n => only_pure _
  decide

theorem only_countFields : FailsOnly kinds P countFields := by
  refine only_count ?_ fun n => only_pure _
  decide

theorem only_expectText (args : Arguments) : FailsOnly kinds P (expectText args) := by
  refine only_query (fun _ => ⟨_, rfl⟩) fun found => ?_
  exact only_ite (only_pure _) (only_pure _)

theorem only_readSeller : FailsOnly kinds P readSeller := by
  refine only_firstText fun text => ?_
  cases text <;> exact only_pure _

theorem only_readDescription : FailsOnly kinds P readDescription := by
  refine only_firstText fun text => ?_
  cases text with
  | none => exact only_pure _
  | some text => exact only_ite (only_pure _) (only_pure _)

theorem only_readSuccess : FailsOnly kinds P readSuccess := by
  refine only_firstText fun text => ?_
  split <;> exact only_pure _

theorem only_readConfirmation : FailsOnly kinds P readConfirmation := by
  refine only_firstText fun text => ?_
  cases text <;> exact only_pure _

theorem only_readModeration : FailsOnly kinds P readModeration := by
  refine only_firstText fun text => ?_
  cases text <;> exact only_pure _

theorem only_findPagination : FailsOnly kinds P findPagination :=
  only_found (only_pure _) fun _ => only_pure _

theorem only_nameDevice (args : Arguments) : FailsOnly kinds P (nameDevice args) :=
  only_read fun _ => only_pure _

theorem only_readViewport : FailsOnly kinds P readViewport := by
  refine only_answered (fun _ => some Browser.viewport) (fun _ => rfl) fun size => ?_
  cases size <;> exact only_pure _

end Walkthrough.Script
