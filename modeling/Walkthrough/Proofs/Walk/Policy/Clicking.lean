import Walkthrough.Proofs.Walk.Policy.Elements
import Walkthrough.Walk.Action.Clicking

namespace Walkthrough.Script

variable {kinds : List String} {P : Browser → Prop}

theorem only_clickFound (hk : "required_element_missing" ∈ kinds) (s : Search) :
    FailsOnly kinds P (clickFound s) :=
  only_require hk fun _ => only_click (only_pure _)

theorem only_openFound (hk : "required_element_missing" ∈ kinds) (s : Search) (ms : Nat)
    (done : String) : FailsOnly kinds P (openFound s ms done) :=
  only_require hk fun _ => only_clickAndSettle (only_pure _)

theorem kind_of_base {s : Settings} {e : StepError} (h : s.base = .error e) :
    e.kind = "missing_configuration" := by
  unfold Settings.base at h
  split at h
  · contradiction
  · obtain rfl := Except.error.inj h
    rfl

theorem kind_of_resolve {s : Settings} {target : String} {e : StepError}
    (h : s.resolve target = .error e) : e.kind = "missing_configuration" ∨ e.kind = "navigation" := by
  unfold Settings.resolve at h
  split at h
  · contradiction
  · cases hbase : s.base with
    | error e' =>
      rw [hbase] at h
      obtain rfl : e' = e := Except.error.inj h
      exact .inl (kind_of_base hbase)
    | ok base =>
      rw [hbase] at h
      dsimp only [bind, Except.bind] at h
      split at h
      · contradiction
      · obtain rfl := Except.error.inj h
        exact .inr rfl

theorem kind_of_respond_navigate {b : Browser} {url : String} {e : SessionError}
    (h : (b.respond (.navigate url)).1 = .error e) : e.kind = .connection := by
  obtain ⟨e', hkind, hnav⟩ | ⟨key, hnav⟩ := b.respond_navigate url
  · rw [hnav] at h
    obtain rfl : e' = e := Except.error.inj h
    exact hkind
  · rw [hnav] at h
    contradiction

theorem only_navigate (hc : "missing_configuration" ∈ kinds) (hn : "navigation" ∈ kinds)
    (target : String) : FailsOnly kinds P (navigate target) := by
  refine only_settings fun s => FailsOnly.bind (only_ofExcept fun e he => ?_) fun url => ?_
  · rcases kind_of_resolve he with hkind | hkind <;> rwa [hkind]
  · refine (meets_ask _).bind fun answer => ⟨fun v b hasked => ?_⟩
    obtain ⟨before, -, hrespond⟩ := hasked
    cases answer with
    | ok visit => trivial
    | error e =>
      have hkind : e.kind = .connection := kind_of_respond_navigate (congrArg Prod.fst hrespond)
      dsimp only
      rw [hkind]
      exact hn

theorem only_addToCart : FailsOnly kinds P addToCart := by
  refine only_found (only_pure _) fun found => only_ask fun answer => ?_
  cases answer with
  | error e => exact only_pure _
  | ok _ => exact only_settle (only_pure _)

theorem tag_of_button {b : Browser} {text : Option Wording} {ids : List Nat}
    (h : b.page.find (.css "button" text) = .ok ids) {found : Handle} (hf : found ∈ b.handles ids) :
    found.tag ≠ "a" := by
  have hparse : Selector.parse "button" = .ok [.one (.tests (some "button") none [] [] [])] := rfl
  unfold Page.find at h
  dsimp only at h
  rw [hparse] at h
  obtain rfl := Except.ok.inj h
  obtain ⟨i, hi, rfl⟩ := List.mem_map.mp hf
  have hfits := (List.mem_filter.mp (List.mem_filter.mp hi).1).2
  simp only [Selector.fits, List.any_cons, List.any_nil, Bool.or_false, Selector.Complex.fits]
    at hfits
  dsimp only
  cases he : b.page.element? i with
  | none => simp [he] at hfits
  | some e =>
    rw [he, Option.any_some, Selector.Compound.fits] at hfits
    have htag : Text.lowercaseAscii e.tag = Text.lowercaseAscii "button" := by
      simp [Selector.tagFits] at hfits
      exact hfits.1.1.1
    rw [Option.map_some, Option.getD_some]
    intro hlink
    rw [hlink] at htag
    exact absurd htag (by decide)

/-- A button stays live when it is clicked, so it can be clicked again. -/
theorem only_addTwice : FailsOnly kinds P addTwice := by
  unfold addTwice
  refine (meets_locate (T := fun h b => b.isLive h ∧ h.tag ≠ "a") _ ?_).bind fun r => ?_
  · intro b _ s hs ids hfind found hmem
    -- buttons are all that is searched for
    obtain rfl : s = .query .heuristic (.css "button" (some (.contains "add to cart"))) :=
      List.mem_singleton.mp hs
    exact ⟨Browser.isLive_of_found hfind hmem, tag_of_button hfind hmem⟩
  · cases r with
    | none => exact only_pure _
    | some found =>
      refine (meets_call (Q := fun _ b => b.isLive found.element) fun b hb => ?_).bind fun _ => ?_
      · obtain ⟨hlive, htag⟩ := hb.2 found rfl
        rw [Browser.respond_click_of_tag hlive htag]
        exact ⟨(), rfl, hlive⟩
      · exact only_settle (only_clickAndSettle (only_pure _))

theorem only_checkOut (hc : "missing_configuration" ∈ kinds) (hn : "navigation" ∈ kinds) :
    FailsOnly kinds P checkOut := by
  refine only_found ?_ fun found => only_clickAndSettle (only_pure _)
  refine only_settings fun s => FailsOnly.bind ?_ fun _ => only_pure _
  rw [discard_eq]
  exact FailsOnly.bind (only_navigate hc hn _) fun _ => only_pure _

theorem only_turnCarousel : FailsOnly kinds P turnCarousel := by
  refine only_count ?_ fun n => only_ite (only_pure _) ?_
  · decide
  refine only_count ?_ fun images => ?_
  · decide
  exact only_found (only_pure _) fun _ => only_clickAndSettle (only_pure _)

theorem only_submitEmptyForm : FailsOnly kinds P submitEmptyForm := by
  refine only_found (only_pure _) fun found => only_clickAndSettle ?_
  refine only_count ?_ fun errors => only_pure _
  decide

theorem only_deleteListing : FailsOnly kinds P deleteListing := by
  refine only_found (only_pure _) fun found => only_clickAndSettle ?_
  exact only_found (only_pure _) fun _ => only_clickAndSettle (only_pure _)

theorem only_joinOrLeaveGroup : FailsOnly kinds P joinOrLeaveGroup :=
  only_found (only_pure _) fun _ => only_text fun _ => only_clickAndSettle (only_pure _)

end Walkthrough.Script
