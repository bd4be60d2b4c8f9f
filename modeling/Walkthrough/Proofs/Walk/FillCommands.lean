import Walkthrough.Proofs.Command.QuotedPair
import Walkthrough.Proofs.Phrasing.Stability
import Walkthrough.Proofs.StepFile.Reading
import Walkthrough.Proofs.Walk.Run
import Walkthrough.Proofs.Walk.Script

namespace Walkthrough

/-- The words are those of a line that is neither blank in front nor a comment, and does not begin
like the line for the menu, the only one of the commands that is rephrased. -/
def Pattern.plainWords (first second : List Char) : Bool :=
  clearWords first second && !(first ++ second).contains '\n' &&
    first.head?.any fun x => !Text.isBlank x && x != '#' && x != '\ufeff' &&
      Text.foldCase x != Text.foldCase 'c'

namespace Catalogue

variable {first u second v : String}

theorem lineFeed_not_mem_quotedLine
    (hwords : '\n' ∉ first.toList ++ second.toList) (hu : IsArgument u) (hv : IsArgument v) :
    '\n' ∉ (quotedLine first u second v).toList := by
  obtain ⟨hfirst, hsecond⟩ := not_or.mp (List.mem_append.not.mp hwords)
  rw [toList_quotedLine]
  simp [Pattern.pairLine, Pattern.pairTail, hfirst, hsecond, hu.lineFeed, hv.lineFeed]

theorem last_quotedLine (first u second v : String) :
    (quotedLine first u second v).toList.getLast? = some '"' := by
  rw [toList_quotedLine]
  unfold Pattern.pairLine Pattern.pairTail
  simp only [← List.append_assoc]
  exact List.getLast?_concat

theorem load_quotedLine (hwords : Pattern.plainWords first.toList second.toList = true)
    (hu : IsArgument u) (hv : IsArgument v) {found : Command × Arguments}
    (hfind : standard.find? (quotedLine first u second v) = some found) :
    StepFile.load Phrasebook.standard .everything (quotedLine first u second v) =
      [⟨1, quotedLine first u second v, 1⟩] := by
  simp only [Pattern.plainWords, Bool.and_eq_true, Option.any_eq_true, Bool.not_eq_true',
    List.contains_eq_mem, decide_eq_false_iff_not, bne_iff_ne] at hwords
  obtain ⟨⟨-, hplain⟩, x, hx, ⟨⟨hblank, hcomment⟩, hmark⟩, hmenu⟩ := hwords
  have hfirst : (quotedLine first u second v).toList.head? = some x := by
    obtain ⟨rest, hrest⟩ := List.head?_eq_some_iff.mp hx
    rw [toList_quotedLine, hrest]
    rfl
  have htrim : Text.Trimmed (quotedLine first u second v).toList := by
    constructor
    · rw [hfirst]
      simpa using hblank
    · rw [last_quotedLine]
      simpa using by decide
  apply StepFile.load_line (lineFeed_not_mem_quotedLine hplain hu hv) htrim hfirst hmark hcomment
  have hknown : standard.knows (quotedLine first u second v) = true := by
    rw [knows_eq_isSome, hfind, Option.isSome_some]
  -- It is not rephrased, since it is not the line for the menu.
  rcases (Phrasebook.canonical_of_known (Text.trim_eq_self_iff.mpr htrim) hknown).2 with
    hstay | ⟨hfold, -⟩
  · exact hstay
  · have hheads := congrArg List.head? hfold
    rw [List.head?_map, hfirst] at hheads
    exact absurd (Option.some.inj hheads) hmenu

end Catalogue

theorem Arguments.text_of_group {args : Arguments} {i : Nat} {text : String}
    (h : args.groups[i]? = some (some text)) : args.text i = text := by
  unfold Arguments.text get?
  rw [List.getD_eq_getElem?_getD, h, Option.getD_some]
  by_cases hempty : text = ""
  · rw [hempty]
    rfl
  · have hfilter : (some text).filter (fun t => !t.isEmpty) = some text := by
      simpa [Option.filter_some] using hempty
    exact congrArg (·.getD "") hfilter

theorem Effect.script_typeInto {effect : Effect} (h : effect = .act .typeInto)
    (line value field : String) :
    effect.script ⟨line, [some line, some value, some field]⟩ = Script.fillField field value := by
  rw [h]
  exact congrArg₂ Script.fillField (Arguments.text_of_group rfl) (Arguments.text_of_group rfl)

theorem Effect.script_fillWith {effect : Effect} (h : effect = .act .fillWith)
    (line field value : String) :
    effect.script ⟨line, [some line, some field, some value]⟩ = Script.fillField field value := by
  rw [h]
  exact congrArg₂ Script.fillField (Arguments.text_of_group rfl) (Arguments.text_of_group rfl)

/-- Looking and filling, without a pause. -/
def Terms.filling : Terms :=
  ⟨fun _ _ => True, fun c => c.Looks ∨ c.kind = .fill, False, False⟩

instance : Terms.filling.Looking :=
  ⟨fun _ h => .inl h⟩

theorem Script.within_fillField (field value : String) (v : View) :
    Procedure.Within Terms.filling.calls False (fillField field value v) := by
  have hkeeps : Keeps .filling Outcome.Regular (fillField field value) :=
    .bind (keeps_require _) fun found _ =>
      .bind (keeps_call (show Terms.filling.calls (.fill found.element value) from .inr rfl))
        fun _ _ => keeps_passed _
  exact hkeeps.within id v

/-- A procedure that never pauses comes to its end at once, whatever the deadline. -/
theorem Procedure.run_of_restless [Host σ] {calls : Call → Prop} {p : Procedure α}
    (hp : p.Within calls False) (d : Option Nat) (s : Stage σ) :
    ∃ a host, p.run d s = (some a, { s with host := host }) := by
  induction p generalizing s with
  | done a => exact ⟨a, s.host, rfl⟩
  | call c next ih =>
    rw [run_call]
    exact ih _ (hp.2 _) { s with host := (Host.respond c s.host).2 }
  | pause ms next ih => exact hp.1.elim
  | record v next ih => exact hp.elim

namespace Course

variable [Host σ] {c : Course} {s : Stage σ}

theorem runStep_of_fill {step : Step} {command : Command} {args : Arguments} {field value : String}
    (hfind : c.catalogue.find? step.text = some (command, args))
    (hscript : command.effect.script args = Script.fillField field value) (d : Option Nat)
    {r : Except StepError Outcome} {host : σ}
    (hrun : Procedure.run d (Script.fillField field value (c.view s)) s =
      (some r, { s with host := host })) :
    c.runStep d step s = (some ⟨step.number, step.text, some command.name, (outcome r).status,
      (outcome r).message, 0⟩, { s with host := host }) := by
  have hprocedure : c.procedure s command args = Script.fillField field value (c.view s) := by
    unfold procedure
    rw [hscript]
  rw [runStep_of_some hfind, hprocedure, hrun]
  simp

end Course

open Catalogue

/-- Both arguments reach the command as they are: a line that types a value into a field is loaded as
it is and captures the two if the field has no quotation mark, whatever is in the value, and one that
fills a field with a value if the value has none. If neither has any, steps with the two lines leave
the same stage with the same status and message at once. -/
theorem quoted_arguments_arrive (value field : String) (hvalue : IsArgument value)
    (hfield : IsArgument field) :
    let typed := quotedLine "type" value "into" field
    let filled := quotedLine "fill" field "with" value
    ('"' ∉ field.toList →
      StepFile.load Phrasebook.standard .everything typed = [⟨1, typed, 1⟩] ∧
      ∃ command, standard.find? typed = some (command, ⟨typed, [some typed, some value, some field]⟩) ∧
        command.name = "type into" ∧ command.effect = .act .typeInto) ∧
    ('"' ∉ value.toList →
      StepFile.load Phrasebook.standard .everything filled = [⟨1, filled, 1⟩] ∧
      ∃ command, standard.find? filled = some (command, ⟨filled, [some filled, some field, some value]⟩) ∧
        command.name = "fill with" ∧ command.effect = .act .fillWith) ∧
    ('"' ∉ field.toList → '"' ∉ value.toList →
      ∀ {σ : Type} [Host σ] (c : Course), c.catalogue = standard →
        ∀ (d : Option Nat) (s : Stage σ) (number line number' line' : Nat),
          ∃ status message after,
            c.runStep d ⟨number, typed, line⟩ s =
              (some ⟨number, typed, some "type into", status, message, 0⟩, after) ∧
            c.runStep d ⟨number', filled, line'⟩ s =
              (some ⟨number', filled, some "fill with", status, message, 0⟩, after)) := by
  intro typed filled
  refine ⟨fun hquote => ?_, fun hquote => ?_, fun hfieldquote hvaluequote σ _ c hc d s n l n' l' => ?_⟩
  · obtain ⟨command, hfind, hcommand⟩ := find?_typed hvalue hfield hquote
    exact ⟨load_quotedLine (by decide +kernel) hvalue hfield hfind, command, hfind, hcommand⟩
  · obtain ⟨command, hfind, hcommand⟩ := find?_filled hfield hvalue hquote
    exact ⟨load_quotedLine (by decide +kernel) hfield hvalue hfind, command, hfind, hcommand⟩
  · obtain ⟨typeInto, htyped, htypename, htypeeffect⟩ := find?_typed hvalue hfield hfieldquote
    obtain ⟨fillWith, hfilled, hfillname, hfilleffect⟩ := find?_filled hfield hvalue hvaluequote
    obtain ⟨r, host, hrun⟩ := Procedure.run_of_restless
      (Script.within_fillField field value (c.view s)) d s
    refine ⟨(Course.outcome r).status, (Course.outcome r).message, { s with host := host }, ?_, ?_⟩
    · rw [← htypename]
      exact Course.runStep_of_fill (hc ▸ htyped) (Effect.script_typeInto htypeeffect _ _ _) d hrun
    · rw [← hfillname]
      exact Course.runStep_of_fill (hc ▸ hfilled) (Effect.script_fillWith hfilleffect _ _ _) d hrun

/-- A value that looks like the end of its own line is captured whole, and without quotation marks both
lines fill the field in the same way. -/
theorem quoted_arguments_arrive_nested :
    let notes : Page := ⟨[⟨"input", [("placeholder", "Notes")], "", none, false⟩], [], [], ⟨0, 0⟩⟩
    let s : Stage Browser := ⟨{ Browser.start Site.empty with page := notes }, 0, none⟩
    let c : Course := ⟨standard, Settings.standard, CaptureLimits.standard, 0⟩
    ((standard.find? "type \"a\" into \"b\" into \"Notes\"").map fun found => found.2.groups.drop 1) =
        some [some "a\" into \"b", some "Notes"] ∧
      ∃ message after,
        c.runStep none ⟨1, "type \"milk\" into \"Notes\"", 1⟩ s =
          (some ⟨1, "type \"milk\" into \"Notes\"", some "type into", .passed, message, 0⟩, after) ∧
        c.runStep none ⟨2, "fill \"Notes\" with \"milk\"", 2⟩ s =
          (some ⟨2, "fill \"Notes\" with \"milk\"", some "fill with", .passed, message, 0⟩, after) ∧
        after.host.journal = [.fill 0 "milk"] := by
  intro notes s c
  have hnotes : IsArgument "Notes" := ⟨by decide, by decide⟩
  have hmilk : IsArgument "milk" := ⟨by decide, by decide⟩
  have hnested : IsArgument "a\" into \"b" := ⟨by decide, by decide⟩
  obtain ⟨htyped, -, -⟩ := quoted_arguments_arrive _ _ hnested hnotes
  obtain ⟨-, command, hfind, -, -⟩ := htyped (by decide)
  have hline : quotedLine "type" "a\" into \"b" "into" "Notes" =
      "type \"a\" into \"b\" into \"Notes\"" := by decide +kernel
  rw [hline] at hfind
  refine ⟨by rw [hfind]; rfl, ?_⟩
  obtain ⟨-, -, hsame⟩ := quoted_arguments_arrive _ _ hmilk hnotes
  obtain ⟨status, message, after, htype, hfill⟩ := hsame (by decide) (by decide) c rfl none s 1 1 2 2
  have htypeline : quotedLine "type" "milk" "into" "Notes" = "type \"milk\" into \"Notes\"" := by
    decide +kernel
  have hfillline : quotedLine "fill" "Notes" "with" "milk" = "fill \"Notes\" with \"milk\"" := by
    decide +kernel
  rw [htypeline] at htype
  rw [hfillline] at hfill
  obtain ⟨hpassed, hjournal⟩ : (c.runStep none ⟨1, "type \"milk\" into \"Notes\"", 1⟩ s).1.map
      (·.status) = some .passed ∧
      (c.runStep none ⟨1, "type \"milk\" into \"Notes\"", 1⟩ s).2.host.journal =
        [.fill 0 "milk"] := by
    decide +kernel
  rw [htype] at hpassed hjournal
  obtain rfl : status = .passed := Option.some.inj hpassed
  exact ⟨message, after, htype, hfill, hjournal⟩

end Walkthrough
