import Mathlib.Algebra.Order.Floor.Div
import Mathlib.GroupTheory.GroupAction.Ring
import Walkthrough.Proofs.Walk.Oracle
import Walkthrough.Proofs.Walk.Script
import Walkthrough.Walk.Action.Waiting

namespace Walkthrough

open Procedure

def Procedure.glance (c : Call) (see : Except SessionError c.Answer → Except ε α) :
    Procedure (Except ε α) :=
  call c fun answer => done (see answer)

/-- The first element of an answer; an error is something to see, too. -/
def Procedure.seeFirst : Except SessionError (List Handle) → Except Unit (Except SessionError Handle)
  | .error e => .ok (.error e)
  | .ok [] => .error ()
  | .ok (h :: _) => .ok (.ok h)

theorem Procedure.lookFor_eq (q : Query) : lookFor q = glance (.query q) seeFirst := by
  show call (.query q) _ = call (.query q) _
  congr 1
  funext answer
  obtain e | _ | _ := answer <;> rfl

/-- A URL that holds a text; an error is something to see, too. -/
def Script.seeUrl (part : String) :
    Except SessionError String → Except String (Except SessionError String)
  | .error e => .ok (.error e)
  | .ok url => if Text.contains url part then .ok (.ok url) else .error url

theorem Script.lookAtUrl_eq (part : String) : lookAtUrl part = glance .currentUrl (seeUrl part) := by
  show Procedure.call .currentUrl _ = Procedure.call .currentUrl _
  congr 1
  funext answer
  cases answer <;> rfl

namespace Procedure

variable {c : Call} {see : Except SessionError c.Answer → Except ε α} {timeout k : Nat}
  {s : Stage Oracle}

/-- A look ends the poll if it sees something or the timeout is over; if not, the next look comes
after one interval. -/
theorem run_pollFrom (passed : Nat) :
    (pollFrom (glance c see) timeout passed).run none s =
      match see (s.host.next 0 c) with
      | .ok a => (some (.ok a), s.later [c] 0)
      | .error e =>
        if timeout ≤ passed then (some (.error e), s.later [c] 0)
        else (pollFrom (glance c see) timeout (passed + pollInterval)).run none
          (s.later [c] pollInterval) := by
  conv_lhs => unfold pollFrom glance bind bind
  rw [run_call_later]
  cases see (s.host.next 0 c) with
  | ok a => rfl
  | error e =>
    dsimp only
    split
    · rfl
    · rw [run_pause_later, Stage.later_later]
      simp [glance]

/-- What the poll comes to when look `k` ends it, after `j` looks that have seen nothing. -/
theorem run_pollFrom_of_end (hfail : ∀ i < k, (see (s.host.next i c)).isOk = false)
    (hleft : ∀ i < k, i * pollInterval < timeout)
    (hend : (see (s.host.next k c)).isOk ∨ timeout ≤ k * pollInterval) {j : Nat} (hj : j ≤ k) :
    (pollFrom (glance c see) timeout (j * pollInterval)).run none
        (s.later (List.replicate j c) (j * pollInterval)) =
      (some (see (s.host.next k c)),
        s.later (List.replicate (k + 1) c) (k * pollInterval)) := by
  -- the induction is on the looks that are still to come
  induction hj using Nat.decreasingInduction with
  | self =>
    rw [run_pollFrom]
    simp only [Stage.host_later, Oracle.next_after, List.length_replicate, Nat.add_zero,
      Stage.later_later, ← List.replicate_succ']
    cases hsee : see (s.host.next k c) with
    | ok a => rfl
    | error e =>
      rw [hsee] at hend
      have hover : timeout ≤ k * pollInterval := hend.resolve_left Bool.false_ne_true
      simp [hover]
  | of_succ j hj ih =>
    rw [run_pollFrom]
    simp only [Stage.host_later, Oracle.next_after, List.length_replicate, Nat.add_zero,
      Stage.later_later, ← List.replicate_succ']
    have hnothing := hfail j hj
    have hgoes : ¬ timeout ≤ j * pollInterval := Nat.not_le.mpr (hleft j hj)
    cases hsee : see (s.host.next j c) with
    | ok a =>
      rw [hsee] at hnothing
      cases hnothing
    | error e =>
      simp only [if_neg hgoes, ← Nat.succ_mul]
      exact ih

/-- A poll ends with the first look that sees something, or else with the look at the first interval
at which the timeout is over. -/
theorem run_poll_of_end (hk : k ≤ timeout ⌈/⌉ pollInterval)
    (hfail : ∀ i < k, (see (s.host.next i c)).isOk = false)
    (hend : (see (s.host.next k c)).isOk ∨ k = timeout ⌈/⌉ pollInterval) :
    (poll (glance c see) timeout).run none s =
      (some (see (s.host.next k c)),
        s.later (List.replicate (k + 1) c) (k * pollInterval)) := by
  have hpos : 0 < pollInterval := by decide
  have hleft : ∀ i < k, i * pollInterval < timeout := by
    intro i hi
    have hbefore : ¬ timeout ⌈/⌉ pollInterval ≤ i := by omega
    rw [ceilDiv_le_iff_le_mul hpos, Nat.mul_comm] at hbefore
    omega
  have hover : (see (s.host.next k c)).isOk ∨ timeout ≤ k * pollInterval := by
    refine hend.imp_right fun hlast => ?_
    rw [Nat.mul_comm, ← ceilDiv_le_iff_le_mul hpos]
    omega
  have hrun := run_pollFrom_of_end hfail hleft hover (Nat.zero_le k)
  simpa [poll] using hrun

/-- What the answer to the last query of a wait comes to. -/
def awaited (q : Query) (timeout : Nat) :
    Except SessionError (List Handle) → Except SessionError Handle
  | .error e => .error e
  | .ok (h :: _) => .ok h
  | .ok [] => .error ⟨.actionTimeout,
      some ("waiting for " ++ q.display ++ " (" ++ toString timeout ++ " ms)")⟩

theorem isOk_seeFirst_iff (answer : Except SessionError (List Handle)) :
    (seeFirst answer).isOk ↔ answer ≠ .ok [] := by
  obtain e | _ | _ := answer <;> simp [seeFirst, Except.isOk, Except.toBool]

theorem run_awaitElement {q : Query} (hk : k ≤ timeout ⌈/⌉ pollInterval)
    (hempty : ∀ i < k, s.host.next i (.query q) = .ok [])
    (hend : s.host.next k (.query q) ≠ .ok [] ∨ k = timeout ⌈/⌉ pollInterval) :
    (awaitElement q timeout).run none s =
      (some (awaited q timeout (s.host.next k (.query q))),
        s.later (List.replicate (k + 1) (.query q)) (k * pollInterval)) := by
  have hfail : ∀ i < k, (seeFirst (s.host.next i (.query q))).isOk = false := by
    intro i hi
    rw [hempty i hi]
    rfl
  have hpoll := run_poll_of_end hk hfail (hend.imp_left (isOk_seeFirst_iff _).mpr)
  show ((poll (lookFor q) timeout).bind _).run none s = _
  rw [lookFor_eq, run_bind, hpoll]
  obtain e | _ | _ := s.host.next k (.query q) <;> rfl

end Procedure

namespace Script

/-- What the answer to the last look at the URL comes to. -/
def expected (part : String) : Except SessionError String → Except StepError Outcome
  | .error e => .error (.browser e)
  | .ok url =>
    if Text.contains url part then .ok (.passed ("url " ++ url ++ " contains \"" ++ part ++ "\""))
    else .error (.assertion ("url " ++ url ++ " does not contain \"" ++ part ++ "\""))

theorem isOk_seeUrl_ok (part url : String) :
    (seeUrl part (.ok url)).isOk = Text.contains url part := by
  unfold seeUrl
  dsimp only
  cases Text.contains url part <;> rfl

theorem run_expectUrl {s : Stage Oracle} {k : Nat} {args : Arguments} (hk : k ≤ 20)
    (hmiss : ∀ i < k, ∃ url, s.host.next i .currentUrl = .ok url ∧
      Text.contains url (args.text 1) = false)
    (hend : (seeUrl (args.text 1) (s.host.next k .currentUrl)).isOk ∨ k = 20) (v : View) :
    Procedure.run none (expectUrl args v) s =
      (some (expected (args.text 1) (s.host.next k .currentUrl)),
        s.later (List.replicate (k + 1) .currentUrl) (k * pollInterval)) := by
  have hfail : ∀ i < k, (seeUrl (args.text 1) (s.host.next i .currentUrl)).isOk = false := by
    intro i hi
    obtain ⟨url, hurl, hmisses⟩ := hmiss i hi
    rw [hurl, isOk_seeUrl_ok, hmisses]
  have htwenty : urlTimeout ⌈/⌉ pollInterval = 20 := by decide
  have hbound : k ≤ urlTimeout ⌈/⌉ pollInterval := htwenty ▸ hk
  have hpoll := run_poll_of_end hbound hfail (htwenty ▸ hend)
  rw [← lookAtUrl_eq] at hpoll
  unfold expectUrl
  rw [run_lift_bind hpoll]
  cases s.host.next k .currentUrl with
  | error e => rfl
  | ok url =>
    unfold seeUrl expected
    cases hcontains : Text.contains url (args.text 1) <;> simp only [hcontains] <;> rfl

end Script

/-- A wait for an element queries at once and after every 250 milliseconds. The first query that finds
anything or fails ends it, where that is not later than the first of these times at which the timeout
is over; if there is none, the wait ends at that time and fails. What the query found or failed with
comes out, no time passes in between and no other call is made. In the same way a step waits five
seconds for a URL that holds a text. -/
theorem polls_at_every_interval (s : Stage Oracle) :
    (∀ q timeout,
      let answer := fun n => s.host.next n (.query q)
      let ended := fun k => s.later (List.replicate (k + 1) (.query q)) (k * 250)
      let r := (awaitElement q timeout).run none s
      (∀ k ≤ timeout ⌈/⌉ 250, (∀ i < k, answer i = .ok []) →
        (∀ e, answer k = .error e → r = (some (.error e), ended k)) ∧
        ∀ h more, answer k = .ok (h :: more) → r = (some (.ok h), ended k)) ∧
      ((∀ i ≤ timeout ⌈/⌉ 250, answer i = .ok []) →
        r = (some (.error ⟨.actionTimeout,
          some ("waiting for " ++ q.display ++ " (" ++ toString timeout ++ " ms)")⟩),
          ended (timeout ⌈/⌉ 250)))) ∧
    ∀ (args : Arguments) (v : View),
      let part := args.text 1
      let answer := fun n => s.host.next n .currentUrl
      let misses := fun n => ∃ url, answer n = .ok url ∧ Text.contains url part = false
      let ended := fun k => s.later (List.replicate (k + 1) .currentUrl) (k * 250)
      let r := Procedure.run none (Script.expectUrl args v) s
      (∀ k ≤ 20, (∀ i < k, misses i) →
        (∀ e, answer k = .error e → r = (some (.error (.browser e)), ended k)) ∧
        ∀ url, answer k = .ok url → Text.contains url part →
          r = (some (.ok (.passed ("url " ++ url ++ " contains \"" ++ part ++ "\""))), ended k)) ∧
      ∀ url, (∀ i ≤ 20, misses i) → answer 20 = .ok url →
        r = (some (.error (.assertion
          ("url " ++ url ++ " does not contain \"" ++ part ++ "\""))), ended 20) := by
  refine ⟨fun q timeout => ?_, fun args v => ?_⟩
  · intro answer ended r
    refine ⟨fun k hk hempty => ⟨fun e he => ?_, fun h more hfound => ?_⟩, fun hempty => ?_⟩
    · have hrun := run_awaitElement hk hempty (.inl (show answer k ≠ _ by simp [he]))
      rwa [show s.host.next k (.query q) = .error e from he] at hrun
    · have hrun := run_awaitElement hk hempty (.inl (show answer k ≠ _ by simp [hfound]))
      rwa [show s.host.next k (.query q) = .ok (h :: more) from hfound] at hrun
    · have hlast : s.host.next (timeout ⌈/⌉ pollInterval) (.query q) = .ok [] :=
        hempty _ (Nat.le_refl _)
      have hrun := run_awaitElement (Nat.le_refl (timeout ⌈/⌉ pollInterval))
        (fun i hi => hempty i (Nat.le_of_lt hi)) (.inr rfl)
      rwa [hlast] at hrun
  · intro part answer misses ended r
    refine ⟨fun k hk hmiss => ⟨fun e he => ?_, fun url hurl hholds => ?_⟩, fun url hmiss hurl => ?_⟩
    · have he' : s.host.next k .currentUrl = .error e := he
      have hrun := Script.run_expectUrl hk hmiss (.inl (by rw [he']; rfl)) v
      rwa [he'] at hrun
    · have hurl' : s.host.next k .currentUrl = .ok url := hurl
      have hrun := Script.run_expectUrl hk hmiss
        (.inl (by rw [hurl', Script.isOk_seeUrl_ok, hholds])) v
      rwa [hurl', Script.expected, if_pos hholds] at hrun
    · have hurl' : s.host.next 20 .currentUrl = .ok url := hurl
      have hmisses : Text.contains url part = false := by
        obtain ⟨last, hlast, hmisses⟩ := hmiss 20 (Nat.le_refl _)
        obtain rfl : last = url := Except.ok.inj (hlast.symm.trans hurl)
        exact hmisses
      have hrun := Script.run_expectUrl (Nat.le_refl _) (fun i hi => hmiss i (Nat.le_of_lt hi))
        (.inr rfl) v
      rwa [hurl', Script.expected, if_neg (by simp [part, hmisses])] at hrun

/-- What appears between the second and the third look is found by the third, after half a second,
although the timeout is over by then; a URL that never comes is waited for until five seconds are
over. -/
theorem polls_at_every_interval_late :
    let q : Query := .text (.contains "Sold")
    let o : Oracle := ⟨fun n => fun
      | .query _ => if n < 2 then .ok [] else .ok [⟨7, "p"⟩]
      | .currentUrl => .ok "https://shop.test/"
      | _ => .error ⟨.internal, none⟩, []⟩
    let s : Stage Oracle := ⟨o, 0, none⟩
    let args : Arguments := ⟨"expect url contains \"/cart\"", [none, some "/cart"]⟩
    let v : View := ⟨Settings.standard, Capture.empty CaptureLimits.standard, none, "oracle"⟩
    let r := (awaitElement q 300).run none s
    let r' := Procedure.run none (Script.expectUrl args v) s
    r = (some (.ok ⟨7, "p"⟩), s.later [.query q, .query q, .query q] 500) ∧
      r' = (some (.error (.assertion "url https://shop.test/ does not contain \"/cart\"")),
        s.later (List.replicate 21 .currentUrl) 5000) := by
  intro q o s args v r r'
  obtain ⟨hawait, hexpect⟩ := polls_at_every_interval s
  have hlooks : ∀ i < 2, s.host.next i (.query q) = .ok [] := by
    intro i hi
    simp [s, o, Oracle.next, hi]
  have hmiss : ∀ i ≤ 20, ∃ url, s.host.next i .currentUrl = .ok url ∧
      Text.contains url (args.text 1) = false := by
    intro i _
    exact ⟨"https://shop.test/", rfl, by decide +kernel⟩
  refine ⟨((hawait q 300).1 2 (by decide) hlooks).2 _ [] rfl, ?_⟩
  have hmessage : "url " ++ "https://shop.test/" ++ " does not contain \"" ++ args.text 1 ++ "\"" =
      "url https://shop.test/ does not contain \"/cart\"" := by
    decide +kernel
  rw [← hmessage]
  exact (hexpect args v).2 _ hmiss rfl

end Walkthrough
