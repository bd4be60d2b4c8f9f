import Mathlib.Data.List.Induction
import Mathlib.Data.List.Perm.Subperm
import Walkthrough.Capture

namespace Walkthrough

section Room

variable {l : List α} {n : Nat}

theorem take_concat_of_room (h : (l.take n).length < n) (a : α) :
    (l ++ [a]).take n = l.take n ++ [a] ∧ (l ++ [a]).length - n = l.length - n := by
  have hlength : l.length < n := by
    rw [List.length_take] at h
    omega
  constructor
  · rw [List.take_of_length_le (Nat.le_of_lt hlength), List.take_of_length_le]
    rw [List.length_append, List.length_singleton]
    exact hlength
  · rw [List.length_append, List.length_singleton]
    omega

theorem take_concat_of_full (h : ¬ (l.take n).length < n) (a : α) :
    (l ++ [a]).take n = l.take n ∧ (l ++ [a]).length - n = l.length - n + 1 := by
  have hlength : n ≤ l.length := by
    rw [List.length_take] at h
    omega
  constructor
  · exact List.take_append_of_le_length hlength
  · rw [List.length_append, List.length_singleton]
    omega

end Room

theorem CaptureLimits.keeps_iff (limits : CaptureLimits) (m : ConsoleMessage) :
    limits.keeps m = true ↔ m.level = .error ∨ m.level = .warning ∧ limits.warnings = true := by
  simp [keeps]

namespace Event

theorem map_console?_filterMap (events : List Event) :
    (events.filterMap console?).map .console = events.filter (·.console?.isSome) := by
  induction events with
  | nil => rfl
  | cons e rest ih =>
    cases e with
    | console m => exact congrArg (Event.console m :: ·) ih
    | response r => exact ih

theorem map_response?_filterMap (events : List Event) :
    (events.filterMap response?).map .response = events.filter (!·.console?.isSome) := by
  induction events with
  | nil => rfl
  | cons e rest ih =>
    cases e with
    | console m => exact ih
    | response r => exact congrArg (Event.response r :: ·) ih

end Event

namespace Capture

def holding (limits : CaptureLimits) (messages : List ConsoleMessage) (responses : List Response) :
    Capture :=
  ⟨limits, messages.take limits.maxEntries, responses.take limits.maxEntries,
    (messages.length - limits.maxEntries) + (responses.length - limits.maxEntries)⟩

section Holding

variable (limits : CaptureLimits) (messages : List ConsoleMessage) (responses : List Response)

theorem addMessage_holding (m : ConsoleMessage) :
    (holding limits messages responses).addMessage m =
      holding limits (messages ++ [m]) responses := by
  unfold addMessage holding
  dsimp only
  split
  · rename_i hroom
    obtain ⟨htake, hover⟩ := take_concat_of_room hroom m
    rw [htake, hover]
  · rename_i hfull
    obtain ⟨htake, hover⟩ := take_concat_of_full hfull m
    rw [htake, hover, Nat.add_right_comm]

theorem addResponse_holding (r : Response) :
    (holding limits messages responses).addResponse r =
      holding limits messages (responses ++ [r]) := by
  unfold addResponse holding
  dsimp only
  split
  · rename_i hroom
    obtain ⟨htake, hover⟩ := take_concat_of_room hroom r
    rw [htake, hover]
  · rename_i hfull
    obtain ⟨htake, hover⟩ := take_concat_of_full hfull r
    rw [htake, hover, Nat.add_assoc]

theorem total_holding :
    (holding limits messages responses).console.length +
        (holding limits messages responses).responses.length +
        (holding limits messages responses).dropped =
      messages.length + responses.length := by
  unfold holding
  dsimp only
  rw [List.length_take, List.length_take]
  omega

end Holding

def messagesOf (limits : CaptureLimits) (events : List Event) : List ConsoleMessage :=
  (events.filterMap Event.console?).filter limits.keeps

theorem messagesOf_append (limits : CaptureLimits) (events more : List Event) :
    messagesOf limits (events ++ more) = messagesOf limits events ++ messagesOf limits more := by
  unfold messagesOf
  rw [List.filterMap_append, List.filter_append]

theorem record_holding (limits : CaptureLimits) (messages : List ConsoleMessage)
    (responses : List Response) (e : Event) :
    (holding limits messages responses).record e =
      holding limits (messages ++ messagesOf limits [e])
        (responses ++ [e].filterMap Event.response?) := by
  cases e with
  | console m =>
    have hresponses : [Event.console m].filterMap Event.response? = [] := rfl
    have hmessages : messagesOf limits [.console m] = [m].filter limits.keeps := rfl
    rw [hresponses, hmessages, List.append_nil]
    by_cases hkeep : limits.keeps m
    · rw [List.filter_cons_of_pos hkeep, List.filter_nil]
      exact (if_pos hkeep).trans (addMessage_holding limits messages responses m)
    · rw [List.filter_cons_of_neg hkeep, List.filter_nil, List.append_nil]
      exact if_neg hkeep
  | response r =>
    have hresponses : [Event.response r].filterMap Event.response? = [r] := rfl
    have hmessages : messagesOf limits [.response r] = [] := rfl
    rw [hresponses, hmessages, List.append_nil]
    exact addResponse_holding limits messages responses r

theorem ofEvents_eq_holding (limits : CaptureLimits) (events : List Event) :
    ofEvents limits events =
      holding limits (messagesOf limits events) (events.filterMap Event.response?) := by
  unfold ofEvents
  -- the latest event comes on top of all that was there before
  induction events using List.reverseRecOn with
  | nil => simp [empty, holding, messagesOf]
  | append_singleton events e ih =>
    rw [List.foldl_append, ih, List.foldl_cons, List.foldl_nil, record_holding,
      messagesOf_append, List.filterMap_append]

theorem hear_eq_record (c : Capture) (e : Event) : c.hear e = c.record e := by
  cases e <;> rfl

theorem attached_eq_ofEvents (limits : CaptureLimits) (events : List Event) :
    attached limits events = ofEvents limits events := by
  have hstep : hear = record := funext fun c => funext fun e => hear_eq_record c e
  unfold attached ofEvents
  rw [hstep]

/-- What is held is among what there was, each entry for an event of its own. -/
theorem entries_holding_subperm (limits : CaptureLimits) (events : List Event) :
    let c := holding limits (messagesOf limits events) (events.filterMap Event.response?)
    (c.console.map Event.console ++ c.responses.map Event.response).Subperm events := by
  intro c
  have hconsole : (c.console.map Event.console).Sublist (events.filter (·.console?.isSome)) := by
    rw [← Event.map_console?_filterMap]
    exact ((List.take_sublist _ _).trans List.filter_sublist).map _
  have hresponses : (c.responses.map Event.response).Sublist
      (events.filter (!·.console?.isSome)) := by
    rw [← Event.map_response?_filterMap]
    exact (List.take_sublist _ _).map _
  exact (hconsole.append hresponses).subperm.trans
    (List.filter_append_perm (·.console?.isSome) events).subperm

/-- The two listeners of a capture keep the first of the messages that are worth keeping and the
first of the responses, as many as there is room for in each log, and what is not kept is counted.
No event is entered more often than it occurred, and it does not matter how messages and responses
alternate. It is the same as to record every event once. -/
theorem listeners_keep_first (limits : CaptureLimits) (events : List Event) :
    let log := attached limits events
    let messages := (events.filterMap Event.console?).filter fun m =>
      m.level = .error ∨ m.level = .warning ∧ limits.warnings = true
    let responses := events.filterMap Event.response?
    log = ofEvents limits events ∧
      log.console = messages.take limits.maxEntries ∧
      log.responses = responses.take limits.maxEntries ∧
      log.console.length + log.responses.length + log.dropped =
        messages.length + responses.length ∧
      (∀ e, (log.console.map Event.console ++ log.responses.map Event.response).count e ≤
        events.count e) ∧
      ∀ others : List Event, others.filterMap Event.console? = events.filterMap Event.console? →
        others.filterMap Event.response? = events.filterMap Event.response? →
        attached limits others = log := by
  intro log messages responses
  have hmessages : messagesOf limits events = messages := by
    refine List.filter_congr fun m _ => ?_
    rw [Bool.eq_iff_iff, limits.keeps_iff, decide_eq_true_iff]
  have hheld (others : List Event) : attached limits others =
      holding limits (messagesOf limits others) (others.filterMap Event.response?) :=
    (attached_eq_ofEvents limits others).trans (ofEvents_eq_holding limits others)
  have hlog : log = holding limits messages responses := hmessages ▸ hheld events
  refine ⟨attached_eq_ofEvents limits events, ?_, ?_, ?_, fun e => ?_, fun others hc hr => ?_⟩
  · rw [hlog]
    rfl
  · rw [hlog]
    rfl
  · rw [hlog]
    exact total_holding limits messages responses
  · have hsub := entries_holding_subperm limits events
    rw [hmessages] at hsub
    rw [hlog]
    exact hsub.count_le e
  · rw [hheld others, hlog, ← hmessages]
    unfold messagesOf
    rw [hc, hr]

/-- Room for two: of three errors and three responses one each is left out, a warning is not counted,
and it would be the same if all responses had come first. -/
theorem listeners_keep_first_two :
    let limits : CaptureLimits := ⟨2, false⟩
    let script (url : String) : Event := .response ⟨url, 200, .script⟩
    let error (text : String) : Event := .console ⟨.error, text⟩
    let warning : Event := .console ⟨.warning, "w"⟩
    let events := [script "/a", error "x", warning, script "/b", error "y", error "z", script "/c"]
    let others := [script "/a", script "/b", script "/c", error "x", warning, error "y", error "z"]
    others.filterMap Event.console? = events.filterMap Event.console? ∧
      others.filterMap Event.response? = events.filterMap Event.response? ∧
      attached limits others = attached limits events ∧
      (attached limits events).console = [⟨.error, "x"⟩, ⟨.error, "y"⟩] ∧
      (attached limits events).dropped = 2 := by
  intro limits script error warning events others
  obtain ⟨-, hconsole, hresponses, htotal, -, hsame⟩ := listeners_keep_first limits events
  refine ⟨rfl, rfl, hsame others rfl rfl, hconsole, ?_⟩
  rw [hconsole, hresponses] at htotal
  have hdropped : 2 + 2 + (attached limits events).dropped = 3 + 3 := htotal
  omega

end Capture

end Walkthrough
