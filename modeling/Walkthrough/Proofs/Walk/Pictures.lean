import Walkthrough.Command.Standard
import Walkthrough.Phrasing.Standard
import Walkthrough.Proofs.Browser.Effects
import Walkthrough.Proofs.Text.FilePath
import Walkthrough.Proofs.Walk.Calls

namespace Walkthrough

open Text (DirectlyIn IsFileName joinPath)

namespace Script

theorem length_imageChars (inBlank : Bool) (cs : List Char) : 2 < (imageChars inBlank cs).length := by
  induction cs generalizing inBlank with
  | nil => exact (by decide : 2 < ".png".toList.length)
  | cons c rest ih =>
    unfold imageChars
    split
    · split
      · exact ih true
      · exact Nat.lt_succ_of_lt (ih true)
    · rw [List.length_append]
      exact Nat.lt_add_left _ (ih false)

theorem slash_mem_imageChars {inBlank : Bool} {cs : List Char} (h : '/' ∈ imageChars inBlank cs) :
    '/' ∈ cs := by
  induction cs generalizing inBlank with
  | nil => exact absurd h (by decide : '/' ∉ ".png".toList)
  | cons c rest ih =>
    unfold imageChars at h
    split at h
    · split at h
      · exact List.mem_cons_of_mem _ (ih h)
      · exact List.mem_cons_of_mem _ (ih ((List.mem_cons.mp h).resolve_left (by decide)))
    · obtain hc | hrest := List.mem_append.mp h
      · exact Text.eq_slash_of_mem_lowerChar hc ▸ List.mem_cons_self
      · exact List.mem_cons_of_mem _ (ih hrest)

theorem isFileName_imageFile {name : String} (h : '/' ∉ name.toList) :
    IsFileName (imageFile name) := by
  have htext : (imageFile name).toList = imageChars false name.toList := String.toList_ofList
  apply IsFileName.of_length
  · rw [htext]
    exact length_imageChars _ _
  · rw [htext]
    exact fun hslash => h (slash_mem_imageChars hslash)

theorem slash_not_mem_hexByte (b : UInt8) : '/' ∉ (hexByte b).toList := by
  have hdigit : ∀ n < 16, '/' ∉ Nat.toDigits 16 n := by decide
  have hbyte : b.toNat < 256 := b.toNat_lt
  have hhigh := hdigit (b.toNat / 16) (by omega)
  have hlow := hdigit (b.toNat % 16) (Nat.mod_lt _ (by decide))
  unfold hexByte
  rw [String.toList_ofList, List.mem_append]
  exact not_or.mpr ⟨hhigh, hlow⟩

theorem isFileName_menuImage (address : String) : IsFileName (menuImage address) := by
  have htext : (menuImage address).toList = "menu_".toList ++
      (((address.toUTF8.toList.take 4).map hexByte).flatMap String.toList ++ ".png".toList) := by
    unfold menuImage
    rw [String.toList_append, String.toList_append, String.toList_join, List.append_assoc]
  apply IsFileName.of_length
  · rw [htext, List.length_append]
    exact Nat.lt_add_right _ (by decide)
  · rw [htext, List.mem_append, List.mem_append, List.flatMap_map, List.mem_flatMap]
    rintro (hfront | ⟨b, -, hb⟩ | hback)
    · exact absurd hfront (by decide)
    · exact slash_not_mem_hexByte b hb
    · exact absurd hback (by decide)

end Script

open Script

/-- A picture, if the call is to take one, is put where `R` allows. -/
def Call.Puts (R : String → Prop) : Call → Prop
  | screenshot path _ => R path
  | _ => True

theorem Call.puts_of_kind {R : String → Prop} {c : Call} (h : c.kind ≠ .screenshot) : c.Puts R := by
  cases c with
  | screenshot => exact absurd rfl h
  | _ => trivial

/-- The path of a picture whose name, as the line gives it, has a slash. -/
def Effect.Strays (e : Effect) (args : Arguments) (dir path : String) : Prop :=
  e = .act .takeScreenshot ∧ '/' ∈ (args.text 1).toList ∧
    path = joinPath dir (imageFile (args.text 1))

namespace Script

variable {R : String → Prop} {v : View}

theorem makes_of_pictureless {Q : α → Prop} {m : Script α} (hm : Keeps .pictureless Q m) :
    Procedure.Makes (Call.Puts R) (m v) :=
  have hcalls : ∀ c, Terms.pictureless.calls c → c.Puts R := fun _ hc => Call.puts_of_kind hc.2
  hm.makes hcalls (fun _ => trivial) v

theorem makes_visitLink {address : String}
    (h : R (joinPath v.settings.screenshots (menuImage address))) :
    Procedure.Makes (Call.Puts R) (visitLink address v) := by
  refine makes_bind (makes_discard (makes_navigate (fun _ => trivial) address v))
    fun _ => ?_
  rw [settings_bind]
  exact makes_call h v

theorem makes_failedVisits {links : List String}
    (h : ∀ address ∈ links, R (joinPath v.settings.screenshots (menuImage address))) :
    Procedure.Makes (Call.Puts R) (failedVisits links v) := by
  induction links with
  | nil => exact .done _
  | cons address rest ih =>
    obtain ⟨hhead, hrest⟩ := List.forall_mem_cons.mp h
    refine makes_bind (makes_attempt (makes_visitLink hhead)) fun r => ?_
    cases r with
    | ok _ => exact ih hrest
    | error e => exact makes_bind (ih hrest) fun _ => .done _

theorem yields_linksOf (selector : String) (v : View) :
    Yields (fun links => ∀ address ∈ links, ∃ u : Url, u.isWeb ∧ u.toText = address)
      (linksOf selector) v := by
  refine (yields_true _ v).bind fun url _ => (yields_true _ v).bind fun found _ =>
    (yields_true _ v).bind fun references _ => ?_
  intro address haddress
  obtain ⟨reference, -, hreference⟩ := List.mem_filterMap.mp haddress
  obtain ⟨u, hu, htext⟩ := Option.map_eq_some_iff.mp hreference
  exact ⟨u, (Option.mem_filter_iff.mp hu).2, htext⟩

theorem makes_visitMenu
    (h : ∀ u : Url, u.isWeb → R (joinPath v.settings.screenshots (menuImage u.toText))) :
    Procedure.Makes (Call.Puts R) (visitMenu v) := by
  refine makes_bind_of_yields (makes_of_pictureless (keeps_linksOf _)) (yields_linksOf _ v)
    fun links hlinks => ?_
  have hvisited : ∀ address ∈ links.eraseDups.take 12,
      R (joinPath v.settings.screenshots (menuImage address)) := by
    intro address haddress
    have hmem := List.mem_eraseDups.mp (List.mem_of_mem_take haddress)
    obtain ⟨u, hu, rfl⟩ := hlinks address hmem
    exact h u hu
  refine makes_ite (.done _) (makes_bind (makes_failedVisits hvisited) fun failed => ?_)
  exact makes_ite (.done _) (.done _)

theorem makes_takeScreenshot {args : Arguments}
    (h : R (joinPath v.settings.screenshots (imageFile (args.text 1)))) :
    Procedure.Makes (Call.Puts R) (takeScreenshot args v) := by
  unfold takeScreenshot
  rw [settings_bind]
  exact makes_bind (makes_call h v) fun _ => .done _

end Script

/-- A step puts its pictures right in the directory, unless the line gives a name with a slash. -/
theorem Effect.makes (e : Effect) (args : Arguments) (v : View) :
    Procedure.Makes (Call.Puts fun path => DirectlyIn v.settings.screenshots path ∨
      e.Strays args v.settings.screenshots path) (e.script args v) := by
  by_cases hpictures : e.pictures
  · cases e with
    | note | heading => contradiction
    | act a =>
      cases a with
      | takeScreenshot =>
        apply makes_takeScreenshot
        by_cases hslash : '/' ∈ (args.text 1).toList
        · exact .inr ⟨rfl, hslash, rfl⟩
        · exact .inl ⟨_, isFileName_imageFile hslash, rfl⟩
      | visitMenu => exact makes_visitMenu fun u _ => .inl ⟨_, isFileName_menuImage _, rfl⟩
      | _ => contradiction
  · exact makes_of_pictureless (Effect.keeps_pictureless hpictures args)

def Browser.Adds (Q : Interaction → Prop) (b b' : Browser) : Prop :=
  ∃ made, b'.journal = b.journal ++ made ∧ ∀ i ∈ made, Q i

namespace Browser.Adds

variable {Q Q' : Interaction → Prop} {b b' b'' : Browser}

theorem refl (b : Browser) : b.Adds Q b :=
  ⟨[], (List.append_nil _).symm, nofun⟩

theorem trans (h : b.Adds Q b') (h' : b'.Adds Q b'') : b.Adds Q b'' := by
  obtain ⟨made, hmade, hQ⟩ := h
  obtain ⟨more, hmore, hQ'⟩ := h'
  refine ⟨made ++ more, ?_, List.forall_mem_append.mpr ⟨hQ, hQ'⟩⟩
  rw [hmore, hmade, List.append_assoc]

theorem imp (h : b.Adds Q b') (hQ : ∀ i, Q i → Q' i) : b.Adds Q' b' := by
  obtain ⟨made, hmade, hmem⟩ := h
  exact ⟨made, hmade, fun i hi => hQ i (hmem i hi)⟩

end Browser.Adds

/-- A picture, if the interaction took one, was put where `R` allows. -/
def Interaction.Puts (R : String → Prop) : Interaction → Prop
  | screenshot path _ => R path
  | _ => True

theorem Interaction.Puts.imp {R R' : String → Prop} (hR : ∀ path, R path → R' path)
    {i : Interaction} (h : i.Puts R) : i.Puts R' := by
  cases i with
  | screenshot path => exact hR path h
  | _ => trivial

section

variable {R : String → Prop}

theorem Call.Puts.of_entry {c : Call} (h : c.Puts R) {i : Interaction} (hi : i ∈ c.entry?) :
    i.Puts R := by
  cases c with
  | screenshot path =>
    obtain rfl := Option.some.inj hi
    exact h
  | currentUrl | query | text | attributeOf | inputValue | loadTiming | images | viewport =>
    contradiction
  | _ =>
    obtain rfl := Option.some.inj hi
    trivial

theorem Browser.adds_respond {c : Call} (h : c.Puts R) (b : Browser) :
    b.Adds (·.Puts R) (b.respond c).2 := by
  have hsettled := b.settled_respond c
  cases hanswer : (b.respond c).1 with
  | error e =>
    rw [hsettled.eq_of_error hanswer]
    exact .refl b
  | ok a => exact ⟨_, hsettled.journal_of_ok hanswer, fun i hi => h.of_entry (by simpa using hi)⟩

theorem Rig.adds_respond {c : Call} (h : c.Puts R) (r : Rig) :
    r.browser.Adds (·.Puts R) (r.respond c).2.browser := by
  unfold Rig.respond
  split
  · exact .refl _
  · exact Browser.adds_respond h r.browser

end

namespace Course

def Strays (c : Course) (step : Step) (path : String) : Prop :=
  ∃ command args, c.catalogue.find? step.text = some (command, args) ∧
    command.effect.Strays args c.settings.screenshots path

theorem adds_runStep (c : Course) (d : Option Nat) (step : Step) (s : Stage Rig) :
    s.host.browser.Adds
      (·.Puts fun path => DirectlyIn c.settings.screenshots path ∨ c.Strays step path)
      (c.runStep d step s).2.host.browser := by
  refine of_runStep (P := fun t : Stage Rig => s.host.browser.Adds _ t.host.browser) d (.refl _)
    fun command args hfind => ?_
  have hmakes := command.effect.makes args (c.view s)
  have hadds := hmakes.host_run (I := fun r : Rig => s.host.browser.Adds (·.Puts _) r.browser)
    (fun call r hcall h => h.trans (r.adds_respond hcall)) d (.refl _)
  refine hadds.imp fun i hi => hi.imp fun path hpath => ?_
  exact hpath.imp_right fun h => ⟨command, args, hfind, h⟩

theorem adds_runSteps (c : Course) (d : Option Nat) (steps : List Step) (s : Stage Rig) :
    s.host.browser.Adds
      (·.Puts fun path => DirectlyIn c.settings.screenshots path ∨ ∃ t ∈ steps, c.Strays t path)
      (c.runSteps d steps s).2.host.browser := by
  refine of_runSteps (P := fun t : Stage Rig => s.host.browser.Adds _ t.host.browser) d (.refl _)
    fun step hstep t ht => ?_
  refine ht.trans ((c.adds_runStep d step t).imp fun i hi => hi.imp fun path hpath => ?_)
  exact hpath.imp_right fun h => ⟨step, hstep, h⟩

/-- All pictures of a run are put right in the directory for them, whatever is disturbed and wherever
the deadline ends it, but for those of lines that give a name with a slash. -/
theorem pictures_of_run (c : Course) (steps : List Step) (s : Stage Rig) :
    ∃ made, (c.run steps s).2.host.browser.journal = s.host.browser.journal ++ made ∧
      ∀ path fullPage, Interaction.screenshot path fullPage ∈ made →
        DirectlyIn c.settings.screenshots path ∨ ∃ step ∈ steps, c.Strays step path := by
  obtain ⟨made, hmade, hputs⟩ :=
    c.adds_runSteps (some (s.clock + c.settings.timeouts.run)) steps s
  exact ⟨made, hmade, fun path fullPage hi => hputs _ hi⟩

/-- A picture whose name is an absolute path is put there, and not in the directory for pictures. -/
theorem picture_outside :
    let c : Course := ⟨Catalogue.standard, Settings.standard, CaptureLimits.standard, 0⟩
    let steps := StepFile.load Phrasebook.standard .everything "screenshot \"/x\""
    let s : Stage Rig := ⟨Rig.start Site.empty Disturbance.none, 0, none⟩
    (c.run steps s).2.host.browser.journal = [.screenshot "/x.png" true] ∧
      ¬ DirectlyIn c.settings.screenshots "/x.png" := by
  refine ⟨by decide +kernel, fun h => ?_⟩
  exact absurd h.begins (by decide)

end Course

end Walkthrough
