import Mathlib.Tactic.Common
import Walkthrough.Proofs.Walk.Script
import Walkthrough.Walk.Action.Clicking

namespace Walkthrough.Script

variable {t : Terms} [ht : t.Handling]

theorem keeps_clickFound (s : Search) : Keeps t Outcome.Regular (clickFound s) :=
  .bind (keeps_require s) fun _ _ => .bind (keeps_click _) fun _ _ => keeps_passed _

theorem keeps_openFound (s : Search) (ms : Nat) (done : String) :
    Keeps t Outcome.Regular (openFound s ms done) :=
  .bind (keeps_require s) fun _ _ => keeps_clickAndSettle _ ms (keeps_passed done)

theorem keeps_addToCart : Keeps t Outcome.Regular addToCart := by
  refine keeps_found (keeps_warned _) fun found => ?_
  refine .bind (keeps_ask (ht.calls _ nofun nofun)) fun answer _ => ?_
  cases answer with
  | error e => exact keeps_warned _
  | ok _ => exact .bind (keeps_settle _) fun _ _ => keeps_passed _

theorem keeps_addTwice : Keeps t Outcome.Regular addTwice :=
  keeps_found (keeps_warned _) fun _ =>
    keeps_clickAndSettle _ _ (keeps_clickAndSettle _ _ (keeps_passed _))

theorem keeps_checkOut (hv : t.visits) : Keeps t Outcome.Regular checkOut := by
  refine keeps_found ?_ fun found => keeps_clickAndSettle _ _ (keeps_passed _)
  refine keeps_settings (fun v w h => ?_) fun s => ?_
  · dsimp only
    rw [h.testData]
  · exact .bind (keeps_discard (.navigate hv _)) fun _ _ => keeps_warned _

theorem keeps_turnCarousel : Keeps t Outcome.Regular turnCarousel := by
  refine .bind (keeps_count _) fun n _ => keeps_ite (keeps_warned _) ?_
  refine .bind (keeps_count _) fun images _ => ?_
  exact keeps_found (keeps_passed _) fun _ => keeps_clickAndSettle _ _ (keeps_passed _)

theorem keeps_submitEmptyForm : Keeps t Outcome.Regular submitEmptyForm :=
  keeps_found (keeps_warned _) fun _ =>
    keeps_clickAndSettle _ _ (.bind (keeps_count _) fun _ _ => keeps_passed _)

theorem keeps_deleteListing : Keeps t Outcome.Regular deleteListing := by
  refine keeps_found (keeps_warned _) fun found => keeps_clickAndSettle _ _ ?_
  exact keeps_found (keeps_passed _) fun _ => keeps_clickAndSettle _ _ (keeps_passed _)

theorem keeps_joinOrLeaveGroup : Keeps t Outcome.Regular joinOrLeaveGroup := by
  refine keeps_found (keeps_warned _) fun found => ?_
  refine .bind (keeps_look trivial) fun label _ => ?_
  exact keeps_clickAndSettle _ _ (keeps_passed _)

end Walkthrough.Script
