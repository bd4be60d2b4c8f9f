import Walkthrough.Proofs.Command.StatusLine
import Walkthrough.Proofs.Walk.Run

namespace Walkthrough

open Pattern

namespace Script

/-- Passes where the current status is the one that is expected. -/
def expectStatus (expected : Nat) : Script Outcome := do
  let actual ← currentStatus
  if actual != expected then throw (.statusMismatch expected actual)
  return .passed ("status " ++ toString actual)

def waitFor (ms : Nat) : Script Outcome := do
  sleep ms
  return .passed ("waited " ++ toString ms ++ " ms")

theorem checkStatus_eq (args : Arguments) : checkStatus args =
    (args.nat? Text.maxU16 1).elim
      (throw (.assertion ("no status code in `" ++ args.line ++ "`"))) expectStatus := by
  unfold checkStatus
  cases args.nat? Text.maxU16 1 <;> rfl

theorem wait_eq (args : Arguments) : wait args =
    (args.nat? Text.maxU64 1).elim
      (throw (.assertion ("wait out of range in `" ++ args.line ++ "`"))) waitFor := by
  unfold wait
  cases args.nat? Text.maxU64 1 <;> rfl

/-- Whatever the calls answer, no assertion of the script fails. -/
def NeverAsserts (m : Script α) : Prop :=
  ∀ v, FailsWith (fun e => ∀ text, e ≠ .assertion text) m v

theorem not_neverAsserts (text : String) : ¬ NeverAsserts (throw (.assertion text) : Script α) :=
  fun h => h ⟨.standard, ⟨⟨0, false⟩, [], [], 0⟩, none, ""⟩ _ rfl text rfl

theorem neverAsserts_ite {p : Prop} [Decidable p] {m : Script α} (hm : NeverAsserts m)
    (text : String) : (if p then m else throw (.assertion text)).NeverAsserts ↔ p := by
  by_cases h : p
  · rw [if_pos h]
    exact iff_of_true hm h
  · rw [if_neg h]
    exact iff_of_false (not_neverAsserts text) h

theorem neverAsserts_pure (a : α) : NeverAsserts (pure a) :=
  failsWith_pure a

theorem neverAsserts_throw {e : StepError} (h : ∀ text, e ≠ .assertion text) :
    NeverAsserts (throw e : Script α) :=
  failsWith_throw h

theorem NeverAsserts.bind {m : Script α} {f : α → Script β} (hm : NeverAsserts m)
    (hf : ∀ a, NeverAsserts (f a)) : NeverAsserts (m >>= f) :=
  fun v => (hm v).bind (yields_true m v) fun a _ => hf a v

theorem neverAsserts_call (c : Call) : NeverAsserts (call c) := by
  refine NeverAsserts.bind (failsWith_lift _) fun answer => ?_
  cases answer with
  | ok a => exact neverAsserts_pure a
  | error e => exact neverAsserts_throw fun _ => nofun

theorem neverAsserts_currentStatus : NeverAsserts currentStatus := by
  have hread (f : View → Script Nat) (hf : ∀ v, NeverAsserts (f v)) : NeverAsserts (read >>= f) :=
    fun v => hf v v
  refine hread _ fun v => ?_
  split
  · exact neverAsserts_pure _
  · exact (neverAsserts_call .currentUrl).bind fun url => neverAsserts_call (.request .get url none)

theorem neverAsserts_expectStatus (n : Nat) : NeverAsserts (expectStatus n) := by
  refine neverAsserts_currentStatus.bind fun actual => ?_
  dsimp only
  split
  · refine NeverAsserts.bind (neverAsserts_throw ?_) fun _ => neverAsserts_pure _
    exact fun _ => nofun
  · exact neverAsserts_pure _

theorem neverAsserts_waitFor (ms : Nat) : NeverAsserts (waitFor ms) :=
  NeverAsserts.bind (failsWith_lift _) fun _ => neverAsserts_pure _

end Script

namespace Command

variable {line : String} {command : Command} {args : Arguments}

/-- What a command whose pattern ends in a number reads of its line. -/
theorem reads_digits {name : String} {words : List Char} {least : Nat} {most : Option Nat}
    {effect : Effect} (hcommand : ∃ c ∈ Catalogue.standard, c.name = name ∧
      c.pattern = digitPattern words least most ∧ c.effect = effect) (hleast : 0 < least)
    (hfind : Catalogue.standard.find? line = some (command, args)) (hname : command.name = name) :
    let digits := Text.lastDigits line
    command.effect = effect ∧ args.line = line ∧ least ≤ digits.length ∧
      (∀ m ∈ most, digits.length ≤ max least m) ∧ Text.denoted digits < 10 ^ digits.length ∧
      ∀ max, args.nat? max 1 =
        if digits.all Char.isDigit ∧ Text.denoted digits ≤ max then some (Text.denoted digits)
        else none := by
  obtain ⟨c, hc, hcname, hpattern, heffect⟩ := hcommand
  obtain ⟨hmem, hargs⟩ := Catalogue.mem_of_find? hfind
  obtain rfl := Catalogue.eq_of_name hc hmem (hcname.trans hname.symm)
  intro digits
  obtain ⟨hline, hget, hall, hmin, hmax⟩ := captures_digits hpattern hleast hargs
  have hne : digits ≠ [] := List.ne_nil_of_length_pos (Nat.lt_of_lt_of_le hleast hmin)
  refine ⟨heffect, hline, hmin, hmax, Text.denoted_lt hall, fun max => ?_⟩
  rw [Arguments.nat?, hget, Option.bind_some]
  exact Text.nat?_of_digits hne hall

theorem status_script (hfind : Catalogue.standard.find? line = some (command, args))
    (hname : command.name = "check status") :
    let digits := Text.lastDigits line
    command.effect = .act .checkStatus ∧ digits.length = 3 ∧
      Script.checkStatus args =
        if digits.all Char.isDigit then Script.expectStatus (Text.denoted digits)
        else throw (.assertion ("no status code in `" ++ line ++ "`")) := by
  have hcommand : ∃ c ∈ Catalogue.standard, c.name = "check status" ∧
      c.pattern = digitPattern "check status".toList 3 (some 3) ∧ c.effect = .act .checkStatus :=
    Catalogue.exists_statusCommand
  intro digits
  obtain ⟨heffect, hline, hmin, hmax, hlt, hread⟩ := reads_digits hcommand (by decide) hfind hname
  have hsize : digits.length = 3 := Nat.le_antisymm (hmax 3 rfl) hmin
  -- three digits always have room
  have hroom : Text.denoted digits ≤ Text.maxU16 := by
    have hthousand : Text.denoted digits < 10 ^ 3 := hsize ▸ hlt
    exact Nat.le_of_lt (Nat.lt_trans hthousand (by decide))
  refine ⟨heffect, hsize, ?_⟩
  rw [Script.checkStatus_eq, hread, if_congr (and_iff_left hroom) rfl rfl, hline]
  split_ifs <;> rfl

theorem wait_script (hfind : Catalogue.standard.find? line = some (command, args))
    (hname : command.name = "wait") :
    let digits := Text.lastDigits line
    command.effect = .act .wait ∧ digits ≠ [] ∧
      Script.wait args =
        if digits.all Char.isDigit ∧ Text.denoted digits ≤ Text.maxU64 then
          Script.waitFor (Text.denoted digits)
        else throw (.assertion ("wait out of range in `" ++ line ++ "`")) := by
  intro digits
  obtain ⟨heffect, hline, hmin, -, -, hread⟩ :=
    reads_digits Catalogue.exists_waitCommand (by decide) hfind hname
  refine ⟨heffect, List.ne_nil_of_length_pos hmin, ?_⟩
  rw [Script.wait_eq, hread, hline]
  split_ifs <;> rfl

/-- The number of a line that checks a status or waits is made up of the decimal digits at its end.
A status has three, and it is always read if they are of ASCII; a number of milliseconds is read if
they are of ASCII and it has room in 64 bits. What is read is what the digits denote. In all other
cases an assertion fails, and in these cases none does. -/
theorem number_read_iff_ascii (hfind : Catalogue.standard.find? line = some (command, args)) :
    let digits := Text.lastDigits line
    let ascii := digits.all Char.isDigit
    let n := Text.denoted digits
    (command.name = "check status" →
      command.effect = .act .checkStatus ∧ digits.length = 3 ∧
      Action.checkStatus.script args = (if ascii then Script.expectStatus n
        else throw (.assertion ("no status code in `" ++ line ++ "`"))) ∧
      ((Action.checkStatus.script args).NeverAsserts ↔ ascii)) ∧
    (command.name = "wait" →
      command.effect = .act .wait ∧ digits ≠ [] ∧
      Action.wait.script args = (if ascii ∧ n ≤ Text.maxU64 then Script.waitFor n
        else throw (.assertion ("wait out of range in `" ++ line ++ "`"))) ∧
      ((Action.wait.script args).NeverAsserts ↔ ascii ∧ n ≤ Text.maxU64)) := by
  intro digits ascii n
  constructor
  · intro hname
    obtain ⟨heffect, hsize, hscript⟩ := status_script hfind hname
    refine ⟨heffect, hsize, hscript, ?_⟩
    show (Script.checkStatus args).NeverAsserts ↔ _
    rw [hscript]
    exact Script.neverAsserts_ite (Script.neverAsserts_expectStatus n) _
  · intro hname
    obtain ⟨heffect, hne, hscript⟩ := wait_script hfind hname
    refine ⟨heffect, hne, hscript, ?_⟩
    show (Script.wait args).NeverAsserts ↔ _
    rw [hscript]
    exact Script.neverAsserts_ite (Script.neverAsserts_waitFor n) _

theorem number_read_iff_ascii_plain :
    (∃ command args, Catalogue.standard.find? "Check status 404" = some (command, args) ∧
      Action.checkStatus.script args = Script.expectStatus 404 ∧
      (Action.checkStatus.script args).NeverAsserts) ∧
    ∃ command args, Catalogue.standard.find? "wait 00250" = some (command, args) ∧
      Action.wait.script args = Script.waitFor 250 ∧ (Action.wait.script args).NeverAsserts := by
  constructor
  · have hline : ∃ command args, Catalogue.standard.find? "Check status 404" = some (command, args) ∧
        command.name = "check status" ∧ command.effect = .act .checkStatus :=
      Catalogue.exists_find?_of_row "^check status\\s+(\\d\x7b3\x7d)$"
        (by simp [Catalogue.standardRows]) (by decide +kernel) (by decide) (by decide)
    obtain ⟨command, args, hfind, hname, -⟩ := hline
    have hascii : (Text.lastDigits "Check status 404").all Char.isDigit = true := by decide
    obtain ⟨-, -, hscript, hnever⟩ := (number_read_iff_ascii hfind).1 hname
    rw [if_pos hascii] at hscript
    exact ⟨command, args, hfind, hscript, hnever.mpr hascii⟩
  · have hline : ∃ command args, Catalogue.standard.find? "wait 00250" = some (command, args) ∧
        command.name = "wait" ∧ command.effect = .act .wait :=
      Catalogue.exists_find?_of_row "^wait\\s+(\\d+)$"
        (by simp [Catalogue.standardRows]) (by decide +kernel) (by decide) (by decide)
    obtain ⟨command, args, hfind, hname, -⟩ := hline
    have hok : (Text.lastDigits "wait 00250").all Char.isDigit = true ∧
        Text.denoted (Text.lastDigits "wait 00250") ≤ Text.maxU64 := by decide
    obtain ⟨-, -, hscript, hnever⟩ := (number_read_iff_ascii hfind).2 hname
    rw [if_pos hok] at hscript
    exact ⟨command, args, hfind, hscript, hnever.mpr hok⟩

/-- Digits of another script: the lines go to the commands for them, and the assertions fail. -/
theorem number_unread_of_other_script :
    let c : Course := ⟨Catalogue.standard, Settings.standard, CaptureLimits.standard, 0⟩
    let site := Site.empty.addRoute "https://shop.test/" 200 ⟨[], [], [], ⟨0, 0⟩⟩
    let start : Stage Browser := ⟨Browser.start site, 0, none⟩
    let s := (c.run [⟨1, "open https://shop.test/", 1⟩] start).2
    Text.lastDigits "check status ٢٠٠" = ['٢', '٠', '٠'] ∧ Text.denoted ['٢', '٠', '٠'] = 200 ∧
      s.last = some ⟨"https://shop.test/", some 200⟩ ∧
      (c.runStep none ⟨2, "check status ٢٠٠", 2⟩ s).1 =
        some ⟨2, "check status ٢٠٠", some "check status", .failed,
          "assertion: assertion failed: no status code in `check status ٢٠٠`", 0⟩ ∧
      Text.lastDigits "wait ٥" = ['٥'] ∧ Text.denoted ['٥'] = 5 ∧
      (c.runStep none ⟨3, "wait ٥", 3⟩ s).1 =
        some ⟨3, "wait ٥", some "wait", .failed,
          "assertion: assertion failed: wait out of range in `wait ٥`", 0⟩ := by
  intro c site start s
  exact ⟨by decide, by decide, by decide +kernel, by decide +kernel, by decide, by decide,
    by decide +kernel⟩

end Command

end Walkthrough
