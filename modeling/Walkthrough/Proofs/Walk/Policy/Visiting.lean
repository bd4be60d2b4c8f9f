import Walkthrough.Proofs.Walk.Policy.Clicking
import Walkthrough.Proofs.Walk.Policy.Observing
import Walkthrough.Walk.Action.Probing
import Walkthrough.Walk.Action.Visiting
import Walkthrough.Walk.Action.Waiting

namespace Walkthrough.Script

variable {kinds : List String} {P : Browser → Prop}

section Navigation

variable (hc : "missing_configuration" ∈ kinds) (hn : "navigation" ∈ kinds)

include hc hn

theorem only_openHomepage : FailsOnly kinds P openHomepage := by
  refine only_settings fun s => FailsOnly.bind (only_ofExcept fun e he => ?_) fun url =>
    (only_navigate hc hn url).bind fun v => only_pure _
  have hbase : s.base = .error e := by
    unfold Settings.homepage at he
    cases hs : s.base with
    | error e' =>
      rw [hs] at he
      exact congrArg Except.error (Except.error.inj he)
    | ok base =>
      rw [hs] at he
      contradiction
  rwa [kind_of_base hbase]

theorem only_openPath (args : Arguments) : FailsOnly kinds P (openPath args) :=
  (only_navigate hc hn _).bind fun _ => only_pure _

theorem only_visitPage (path : SitePaths → String) (ms : Nat) :
    FailsOnly kinds P (visitPage path ms) :=
  only_settings fun _ => (only_navigate hc hn _).bind fun _ => only_settle (only_pure _)

theorem only_probe (endpoint : Endpoint) : FailsOnly kinds P (probe endpoint) := by
  refine only_settings fun s => FailsOnly.bind (only_ofExcept fun e he => ?_) fun url => ?_
  · rcases kind_of_resolve he with hkind | hkind <;> rwa [hkind]
  · refine only_ask fun answer => ?_
    cases answer <;> exact only_pure _

end Navigation

theorem meets_attributes (name : String) (found : List Handle) :
    Meets kinds (fun b => ∀ h ∈ found, b.isLive h) (found.mapM fun h => call (.attributeOf h name))
      fun _ _ => True := by
  induction found with
  | nil => exact only_pure _
  | cons h rest ih =>
    rw [List.mapM_cons]
    refine (meets_ofElement (fun b => b.page.attribute? h.id name) (fun _ => rfl)
      fun b hb => hb h List.mem_cons_self).bind fun value => ?_
    have hrest : Meets kinds (fun b => ∀ h' ∈ h :: rest, b.isLive h')
        (rest.mapM fun h => call (.attributeOf h name)) fun _ _ => True :=
      ih.imp (fun b hb h' hh => hb h' (List.mem_cons_of_mem _ hh)) fun _ _ h => h
    exact hrest.bind fun _ => only_pure _

theorem only_linksOf {selector : String} (hs : (Selector.parse selector).toOption.isSome) :
    FailsOnly kinds P (linksOf selector) := by
  refine only_answered (·.url) (fun _ => rfl) fun url => ?_
  refine only_query (Query.answered_css hs none) fun found => ?_
  exact (meets_attributes "href" found).bind fun _ => only_pure _

theorem only_failedVisits (links : List String) : FailsOnly kinds P (failedVisits links) := by
  induction links generalizing P with
  | nil => exact only_pure _
  | cons address rest ih =>
    refine FailsOnly.bind (meets_attempt _) fun r => ?_
    cases r with
    | ok _ => exact ih
    | error e => exact ih.bind fun _ => only_pure _

theorem only_visitMenu : FailsOnly kinds P visitMenu := by
  refine (only_linksOf ?_).bind fun links => only_ite (only_pure _) ?_
  · decide
  exact (only_failedVisits _).bind fun failed => only_ite (only_pure _) (only_pure _)

theorem only_brokenLinks (links : List String) : FailsOnly kinds P (brokenLinks links) := by
  induction links generalizing P with
  | nil => exact only_pure _
  | cons address rest ih =>
    refine only_ask fun answer => ?_
    cases answer <;> exact ih.bind fun _ => only_pure _

theorem only_checkBrokenLinks : FailsOnly kinds P checkBrokenLinks := by
  refine (only_linksOf ?_).bind fun links => (only_brokenLinks _).bind fun broken => ?_
  · decide
  exact only_ite (only_pure _) (only_pure _)

theorem only_viewItems (indices : List Nat) : FailsOnly kinds P (viewItems indices) := by
  induction indices generalizing P with
  | nil => exact only_pure _
  | cons index rest ih =>
    exact FailsOnly.bind (meets_attempt _) fun _ => ih.bind fun _ => only_pure _

theorem only_browseItems : FailsOnly kinds P browseItems := by
  refine only_count ?_ fun total => (only_viewItems _).bind fun viewed => ?_
  · decide
  exact only_ite (only_pure _) (only_pure _)

theorem only_takeScreenshot (args : Arguments) : FailsOnly kinds P (takeScreenshot args) := by
  refine only_settings fun s => ?_
  exact (meets_call (Q := fun _ _ => True) fun b _ => ⟨(), rfl, trivial⟩).bind fun _ => only_pure _

theorem only_currentStatus : FailsOnly kinds P currentStatus := by
  refine only_read fun v => ?_
  split
  · exact only_pure _
  · refine only_answered (·.url) (fun _ => rfl) fun url => ?_
    exact (meets_call (Q := fun _ _ => True) fun b _ => ⟨_, rfl, trivial⟩).only

theorem only_checkStatus (hs : "status_mismatch" ∈ kinds) (ha : "assertion" ∈ kinds)
    (args : Arguments) : FailsOnly kinds P (checkStatus args) := by
  unfold checkStatus
  split
  · refine only_currentStatus.bind fun actual => ?_
    dsimp only
    split
    · exact FailsOnly.bind (only_throw hs) fun _ => only_pure _
    · exact only_pure _
  · exact only_throw ha

theorem only_wait (ha : "assertion" ∈ kinds) (args : Arguments) :
    FailsOnly kinds P (wait args) := by
  unfold wait
  split
  · exact FailsOnly.bind (meets_lift fun _ _ => trivial) fun _ => only_pure _
  · exact only_throw ha

/-- A look that deals with its own failures. -/
def Sees (look : Procedure (Except ε (Except SessionError α))) : Prop :=
  ∀ b e, (look.finish b).1 ≠ .ok (.error e)

theorem sees_pollFrom {look : Procedure (Except ε (Except SessionError α))} (h : Sees look)
    (timeout passed : Nat) : Sees (Procedure.pollFrom look timeout passed) := by
  induction passed using Procedure.pollFrom.induct timeout with
  | case1 passed ih =>
    intro b e
    have hlook := h b e
    unfold Procedure.pollFrom
    rw [Procedure.finish_bind]
    cases hr : (look.finish b).1 with
    | ok a =>
      rw [hr] at hlook
      exact hlook
    | error _ =>
      dsimp only
      split
      · intro hnone
        cases hnone
      · rename_i hleft
        exact ih hleft _ e

theorem sees_poll {look : Procedure (Except ε (Except SessionError α))} (h : Sees look)
    (timeout : Nat) : Sees (Procedure.poll look timeout) :=
  sees_pollFrom h timeout 0

theorem sees_lookFor {q : Query} (hq : q.Answered) : Sees (Procedure.lookFor q) := by
  intro b e
  obtain ⟨ids, -, hrespond⟩ := b.respond_query hq
  unfold Procedure.lookFor
  rw [Procedure.finish_do, Procedure.finish_ask, hrespond]
  cases b.handles ids <;> nofun

theorem sees_lookAtUrl (part : String) : Sees (lookAtUrl part) := by
  intro b e
  unfold lookAtUrl
  rw [Procedure.finish_do, Procedure.finish_ask]
  have hurl : b.respond .currentUrl = (.ok b.url, b) := rfl
  rw [hurl]
  dsimp only
  split <;> nofun

/-- Waiting for an element fails only in that it takes too long. -/
theorem finish_awaitElement {q : Query} (hq : q.Answered) (timeout : Nat) (b : Browser)
    {e : SessionError} (h : ((Procedure.awaitElement q timeout).finish b).1 = .error e) :
    e.kind = .actionTimeout := by
  have hsees := sees_poll (sees_lookFor hq) timeout b
  unfold Procedure.awaitElement at h
  rw [Procedure.finish_do] at h
  rcases hr : ((Procedure.poll (Procedure.lookFor q) timeout).finish b).1 with
    _ | answer
  · rw [hr] at h
    obtain rfl := Except.error.inj h
    rfl
  · rw [hr] at h hsees
    obtain rfl : answer = .error e := h
    exact absurd rfl (hsees e)

theorem only_awaitText (ht : "timeout" ∈ kinds) (args : Arguments) :
    FailsOnly kinds P (awaitText args) := by
  refine only_settings fun s => ?_
  have htext : (Query.text (.contains (args.text 1))).Answered := fun _ => ⟨_, rfl⟩
  refine (meets_lift (Q := fun r _ => ∀ e, r = .error e → e.kind = .actionTimeout)
    fun b _ e he => finish_awaitElement htext _ b he).bind fun r => ?_
  cases r with
  | ok found => exact only_pure _
  | error e =>
    refine ⟨fun v b h => ?_⟩
    have hkind : e.kind = .actionTimeout := h e rfl
    dsimp only
    rw [hkind]
    exact ht

theorem only_expectUrl (ha : "assertion" ∈ kinds) (args : Arguments) :
    FailsOnly kinds P (expectUrl args) := by
  refine (meets_lift (Q := fun r _ => ∀ e, r ≠ .ok (.error e)) fun b _ e =>
    sees_poll (sees_lookAtUrl _) _ b e).bind fun r => ?_
  obtain url | e | url := r
  · exact only_throw ha
  · exact ⟨fun _ _ h => absurd rfl (h e)⟩
  · exact only_pure _

end Walkthrough.Script
