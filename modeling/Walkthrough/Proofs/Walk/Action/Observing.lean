import Mathlib.Tactic.Common
import Walkthrough.Proofs.Walk.Script
import Walkthrough.Walk.Action.Observing

namespace Walkthrough.Script

variable {t : Terms}

theorem keeps_readConsole : Keeps t Outcome.Regular readConsole := by
  refine keeps_read (fun v w h => ?_) fun v => ?_
  · rw [h.capture]
  · exact keeps_ite (keeps_passed _) (keeps_warned _)

theorem keeps_readMissingResources : Keeps t Outcome.Regular readMissingResources := by
  refine keeps_read (fun v w h => ?_) fun v => ?_
  · rw [h.capture]
  · exact keeps_ite (keeps_passed _) (keeps_warned _)

theorem keeps_nameDevice (args : Arguments) : Keeps t Outcome.Regular (nameDevice args) := by
  refine keeps_read (fun v w h => ?_) fun v => .pure ?_
  · rw [h.browserName]
  · simp [Outcome.Regular]

variable [ht : t.Looking]

theorem keeps_readLoadTime : Keeps t Outcome.Regular readLoadTime :=
  .bind (keeps_look trivial) fun _ _ => keeps_passed _

theorem keeps_readLoadBudget (args : Arguments) : Keeps t Outcome.Regular (readLoadBudget args) := by
  unfold readLoadBudget
  split
  · refine .bind (keeps_look trivial) fun timing _ => ?_
    split
    · exact keeps_warned _
    · refine .pure ?_
      split
      · exact Outcome.regular_passed _
      · exact Outcome.regular_warned _
  · exact .throw _ trivial

theorem keeps_readBrokenImages : Keeps t Outcome.Regular readBrokenImages := by
  refine .bind (keeps_look trivial) fun images _ => ?_
  exact keeps_ite (keeps_passed _) (keeps_warned _)

theorem keeps_readImageSources : Keeps t Outcome.Regular readImageSources := by
  refine .bind (keeps_look trivial) fun images _ => ?_
  exact keeps_ite (keeps_passed _) (keeps_warned _)

theorem keeps_firstAttribute (selector name : String) :
    Keeps t (fun _ => True) (firstAttribute selector name) := by
  refine .bind (keeps_look trivial) fun found _ => ?_
  cases found with
  | nil => exact .pure trivial
  | cons h rest => exact keeps_look (c := .attributeOf h name) trivial

theorem keeps_readFavicon : Keeps t Outcome.Regular readFavicon := by
  refine .bind (keeps_firstAttribute _ _) fun favicon _ => ?_
  refine .bind (keeps_firstAttribute _ _) fun viewport _ => .pure ?_
  split
  · exact Outcome.regular_passed _
  · exact Outcome.regular_warned _

theorem keeps_countAssets : Keeps t Outcome.Regular countAssets :=
  .bind (keeps_count _) fun _ _ => .bind (keeps_count _) fun _ _ => keeps_passed _

theorem keeps_findFileInput : Keeps t Outcome.Regular findFileInput := by
  refine .bind (keeps_count _) fun n _ => ?_
  exact keeps_ite (keeps_passed _) (keeps_warned _)

theorem keeps_findListing : Keeps t Outcome.Regular findListing := by
  refine .bind (keeps_count _) fun n _ => ?_
  exact keeps_ite (keeps_passed _) (keeps_warned _)

theorem keeps_countFeed : Keeps t Outcome.Regular countFeed :=
  .bind (keeps_count _) fun _ _ => keeps_passed _

theorem keeps_countErrors : Keeps t Outcome.Regular countErrors :=
  .bind (keeps_count _) fun _ _ => keeps_passed _

theorem keeps_countFields : Keeps t Outcome.Regular countFields :=
  .bind (keeps_count _) fun _ _ => keeps_passed _

theorem keeps_expectText (args : Arguments) : Keeps t Outcome.Regular (expectText args) := by
  refine .bind (keeps_look trivial) fun found _ => ?_
  exact keeps_ite (keeps_warned _) (keeps_passed _)

theorem keeps_readSeller : Keeps t Outcome.Regular readSeller :=
  keeps_text (keeps_warned _) fun _ => keeps_passed _

theorem keeps_readDescription : Keeps t Outcome.Regular readDescription :=
  keeps_text (keeps_warned _) fun _ => keeps_ite (keeps_passed _) (keeps_warned _)

theorem keeps_readSuccess : Keeps t Outcome.Regular readSuccess := by
  refine .bind (keeps_firstText _) fun text _ => ?_
  split
  · exact keeps_passed _
  · exact keeps_warned _

theorem keeps_readConfirmation : Keeps t Outcome.Regular readConfirmation :=
  keeps_text (keeps_warned _) fun _ => keeps_passed _

theorem keeps_readModeration : Keeps t Outcome.Regular readModeration :=
  keeps_text (keeps_warned _) fun _ => keeps_passed _

theorem keeps_findPagination : Keeps t Outcome.Regular findPagination :=
  keeps_found (keeps_warned _) fun _ => keeps_passed _

theorem keeps_readViewport : Keeps t Outcome.Regular readViewport := by
  refine .bind (keeps_look trivial) fun size _ => ?_
  cases size with
  | none => exact keeps_warned _
  | some size => exact keeps_passed _

end Walkthrough.Script
