import Walkthrough.Proofs.Command.Numbers
import Walkthrough.Proofs.Walk.Run

namespace Walkthrough

namespace Catalogue

open Pattern

def standardName? (line : String) : Option String :=
  (standard.find? line).map (·.1.name)

/-- Lines that leave it to the credentials which phone number or country code is entered. -/
def drawsOnPhone (line : String) : Bool :=
  match standardName? line with
  | some "login" => true
  | some "enter phone" => Text.numbersIn line == 0
  | some "enter phone with country code" => Text.numbersIn line < 2
  | _ => false

/-- Lines that leave it to the credentials which one-time password is entered. -/
def drawsOnOtp (line : String) : Bool :=
  match standardName? line with
  | some "otp verify" => true
  | some "enter otp" => Text.numbersIn line == 0
  | _ => false

/-- The groups for numbers of the commands that take them, by name. -/
def numberGroups : List (String × List Nat) :=
  [("enter phone", [1]), ("enter phone with country code", [1, 2]), ("enter otp", [1])]

/-- The name of the command whose effect may read credentials. -/
def readerName? : Effect → Option String
  | .act .enterPhone => some "enter phone"
  | .act .enterPhoneWithCountry => some "enter phone with country code"
  | .act .login => some "login"
  | .act .enterOtp => some "enter otp"
  | .act .verifyOtp => some "otp verify"
  | _ => none

section Routed

variable {line : String} {command : Command} {args : Arguments}

theorem name_of_reader {c : Command} (hc : c ∈ standard) {name : String}
    (hname : readerName? c.effect = some name) : c.name = name := by
  have hrows : standardRows.all (fun r => (readerName? r.2.2).all (· == r.1)) := by
    decide +kernel
  obtain ⟨r, hr, hrname, heffect⟩ := row_of_mem hc
  have hrow := List.all_eq_true.mp hrows r hr
  rw [← heffect, hname] at hrow
  have hsame : name = r.1 := by simpa using hrow
  rw [hrname, hsame]

theorem pattern_of_numberGroups {c : Command} (hc : c ∈ standard) {is : List Nat}
    (hgroups : (c.name, is) ∈ numberGroups) : c.pattern = numbered c.name.toList is := by
  have hrows : standardRows.all fun r => numberGroups.all fun g => r.1 != g.1 ||
      (Command.ofText r.1 r.2.1 r.2.2).toOption.all (·.pattern == numbered g.1.toList g.2) := by
    decide +kernel
  obtain ⟨r, hr, hread⟩ := ofText_of_mem hc
  have hname : c.name = r.1 := (ofText_eq_ok hread).1
  have hrow := List.all_eq_true.mp (List.all_eq_true.mp hrows r hr) _ hgroups
  rw [hread, hname] at hrow
  rw [hname]
  simpa [Except.toOption] using hrow

/-- Where a line has as many numbers as its command can take, no argument is missing. -/
theorem isSome_get?_of_numbers (hfind : standard.find? line = some (command, args)) {is : List Nat}
    (hgroups : (command.name, is) ∈ numberGroups) (hnumbers : is.length ≤ Text.numbersIn line) :
    ∀ i ∈ is, (args.get? i).isSome := by
  have hplaces : ∀ g ∈ numberGroups, g.2.Nodup ∧ 0 ∉ g.2 := by
    simp [numberGroups]
  have hplain : numberGroups.all fun g =>
      g.1.toList.all fun x => !Text.isDecimalDigit (Text.foldCase x) := by
    decide +kernel
  obtain ⟨hnodup, hzero⟩ := hplaces _ hgroups
  have hwords : ∀ x ∈ command.name.toList, Text.isDecimalDigit (Text.foldCase x) = false := by
    simpa using List.all_eq_true.mp hplain _ hgroups
  obtain ⟨hmem, hargs⟩ := mem_of_find? hfind
  intro i hi
  have hi0 : i ≠ 0 := fun h => hzero (h ▸ hi)
  exact Command.isSome_get?_of_numbered (pattern_of_numberGroups hmem hgroups) hwords hnodup hargs
    hnumbers i hi hi0

/-- Credentials that are the same where the line draws on them are the same for its step. -/
theorem readsSame_of_find? (hfind : standard.find? line = some (command, args))
    {c d : Credentials}
    (hphone : drawsOnPhone line → c.countryCode = d.countryCode ∧ c.phone = d.phone)
    (hotp : drawsOnOtp line → c.otp = d.otp) : command.effect.ReadsSame args c d := by
  have hname {name : String} (h : readerName? command.effect = some name) :
      command.name = name ∧ standardName? line = some name := by
    have hsame : command.name = name := name_of_reader (mem_of_find? hfind).1 h
    exact ⟨hsame, by rw [standardName?, hfind, Option.map_some, hsame]⟩
  -- A number that the step misses is missing in the line.
  have hmissing {name : String} {is : List Nat} (hgroups : (name, is) ∈ numberGroups)
      (h : command.name = name) {i : Nat} (hi : i ∈ is) (hnone : args.get? i = none) :
      Text.numbersIn line < is.length := by
    by_contra hmany
    have hsome := isSome_get?_of_numbers hfind (h ▸ hgroups) (Nat.le_of_not_lt hmany) i hi
    simp [hnone] at hsome
  cases heffect : command.effect with
  | note | heading => trivial
  | act a =>
    cases a with
    | enterPhone =>
      obtain ⟨hcommand, hline⟩ := hname (congrArg readerName? heffect)
      intro hnone
      have hfew := hmissing (.head _) hcommand (.head _) hnone
      have hzero : Text.numbersIn line = 0 := Nat.lt_one_iff.mp hfew
      exact (hphone (by simp [drawsOnPhone, hline, hzero])).2
    | enterPhoneWithCountry =>
      obtain ⟨hcommand, hline⟩ := hname (congrArg readerName? heffect)
      have hdraws {i : Nat} (hi : i ∈ [1, 2]) (hnone : args.get? i = none) :
          c.countryCode = d.countryCode ∧ c.phone = d.phone := by
        have hfew := hmissing (.tail _ (.head _)) hcommand hi hnone
        have htwo : Text.numbersIn line < 2 := hfew
        exact hphone (by simp [drawsOnPhone, hline, htwo])
      refine ⟨fun hnone => ?_, fun hnone => ?_⟩
      · exact (hdraws (.head _) hnone).1
      · exact (hdraws (.tail _ (.head _)) hnone).2
    | login =>
      obtain ⟨-, hline⟩ := hname (congrArg readerName? heffect)
      exact hphone (by simp [drawsOnPhone, hline])
    | enterOtp =>
      obtain ⟨hcommand, hline⟩ := hname (congrArg readerName? heffect)
      intro hnone
      have hfew := hmissing (.tail _ (.tail _ (.head _))) hcommand (.head _) hnone
      have hzero : Text.numbersIn line = 0 := Nat.lt_one_iff.mp hfew
      exact hotp (by simp [drawsOnOtp, hline, hzero])
    | verifyOtp =>
      obtain ⟨-, hline⟩ := hname (congrArg readerName? heffect)
      exact hotp (by simp [drawsOnOtp, hline])
    | _ => trivial

end Routed

end Catalogue

namespace Course

variable [Host σ]

def withCredentials (c : Course) (d : Credentials) : Course :=
  { c with settings.credentials := d }

theorem procedure_withCredentials {c : Course} {d : Credentials} {command : Command}
    {args : Arguments} (h : command.effect.ReadsSame args d c.settings.credentials) (s : Stage σ) :
    (c.withCredentials d).procedure s command args = c.procedure s command args := by
  let R := fun x y => command.effect.ReadsSame args x y
  have hkeeps : Script.Keeps (.acting R) Outcome.Regular (command.effect.script args) :=
    Effect.keeps (fun _ _ hR => hR) fun _ => trivial
  have halike : View.Alike R ((c.withCredentials d).view s) (c.view s) :=
    ⟨rfl, h, rfl, rfl, rfl, rfl, rfl, rfl, rfl⟩
  exact hkeeps.eq_of_alike halike

/-- Credentials that are the same wherever a line draws on them. -/
def Suits (c : Course) (d : Credentials) (line : String) : Prop :=
  (Catalogue.drawsOnPhone line → d.countryCode = c.settings.credentials.countryCode ∧
    d.phone = c.settings.credentials.phone) ∧
  (Catalogue.drawsOnOtp line → d.otp = c.settings.credentials.otp)

variable {c : Course} {d : Credentials}

theorem runStep_withCredentials (hc : c.catalogue = Catalogue.standard) {step : Step}
    (h : c.Suits d step.text) (deadline : Option Nat) (s : Stage σ) :
    (c.withCredentials d).runStep deadline step s = c.runStep deadline step s := by
  refine runStep_congr c (c.withCredentials d) rfl (fun command args hfind => ?_) deadline
  exact procedure_withCredentials (Catalogue.readsSame_of_find? (hc ▸ hfind) h.1 h.2) s

theorem runSteps_withCredentials (hc : c.catalogue = Catalogue.standard) {steps : List Step}
    (h : ∀ step ∈ steps, c.Suits d step.text) (deadline : Option Nat) (s : Stage σ) :
    (c.withCredentials d).runSteps deadline steps s = c.runSteps deadline steps s :=
  runSteps_congr (fun step hstep => runStep_withCredentials hc (h step hstep) deadline)
    (fun _ _ => rfl) s

/-- Credentials are for the steps that enter them. Where no line logs in, verifies a one-time
password or leaves out a number that it could give, a run goes the same way under any credentials:
its records, all that it makes of the host, its time and its last navigation. Where only the
one-time password differs, so does any run whose lines neither verify it nor leave it out. -/
theorem credentials_reach_their_steps (hc : c.catalogue = Catalogue.standard) (d : Credentials)
    (steps : List Step) (s : Stage σ) :
    ((∀ step ∈ steps, ¬ Catalogue.drawsOnPhone step.text ∧ ¬ Catalogue.drawsOnOtp step.text) →
      (c.withCredentials d).run steps s = c.run steps s) ∧
    (d.countryCode = c.settings.credentials.countryCode →
      d.phone = c.settings.credentials.phone →
      (∀ step ∈ steps, ¬ Catalogue.drawsOnOtp step.text) →
      (c.withCredentials d).run steps s = c.run steps s) := by
  constructor
  · intro h
    refine runSteps_withCredentials hc (fun step hstep => ?_) _ s
    exact ⟨fun hphone => absurd hphone (h step hstep).1, fun hotp => absurd hotp (h step hstep).2⟩
  · intro hcode hphone h
    refine runSteps_withCredentials hc (fun step hstep => ?_) _ s
    exact ⟨fun _ => ⟨hcode, hphone⟩, fun hotp => absurd hotp (h step hstep)⟩

/-- A number that is given in the line is entered whatever is configured, also where a query is made
to fail. One that is not given is the configured one, whatever the one-time password. -/
theorem credentials_reach_their_steps_phone :
    let home : Page :=
      ⟨[⟨"input", [("type", "tel"), ("placeholder", "Phone")], "", none, false⟩], [], [], ⟨0, 0⟩⟩
    let b := { Browser.start Site.empty with page := home }
    let slow : Fault := ⟨.query, ⟨.actionTimeout, none⟩, some [0]⟩
    let s : Stage Rig := ⟨⟨b, { Disturbance.none with faults := [slow] }, []⟩, 0, none⟩
    let c : Course := ⟨Catalogue.standard,
      { Settings.standard with credentials := ⟨some "44", some "555", some "1234"⟩ },
      CaptureLimits.standard, 0⟩
    let given : List Step := [⟨1, "Enter phone with country code 49 171", 1⟩]
    let configured : List Step := [⟨1, "enter phone", 1⟩]
    (c.run given s).1.map (·.message) = ["entered phone +49 171"] ∧
      (c.withCredentials ⟨none, none, none⟩).run given s = c.run given s ∧
      (c.run configured s).1.map (·.message) = ["entered phone 555"] ∧
      (c.withCredentials ⟨some "44", some "555", none⟩).run configured s = c.run configured s := by
  intro home b slow s c given configured
  -- evaluated together, so that the patterns of the catalogue are read once
  obtain ⟨hgiven, hconfigured, hfirst, hsecond⟩ :
      (∀ step ∈ given, ¬ Catalogue.drawsOnPhone step.text ∧ ¬ Catalogue.drawsOnOtp step.text) ∧
      (∀ step ∈ configured, ¬ Catalogue.drawsOnOtp step.text) ∧
      (c.run given s).1.map (·.message) = ["entered phone +49 171"] ∧
      (c.run configured s).1.map (·.message) = ["entered phone 555"] := by
    decide +kernel
  exact ⟨hfirst, (credentials_reach_their_steps rfl _ given s).1 hgiven, hsecond,
    (credentials_reach_their_steps rfl _ configured s).2 rfl rfl hconfigured⟩

end Course

end Walkthrough
