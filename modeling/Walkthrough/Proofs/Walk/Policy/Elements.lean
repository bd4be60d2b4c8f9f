import Walkthrough.Proofs.Browser.Handles
import Walkthrough.Proofs.Walk.Policy.Rules

namespace Walkthrough

/-- A query that no page fails to answer. -/
def Query.Answered (q : Query) : Prop :=
  ∀ p : Page, ∃ found, p.find q = .ok found

theorem Query.answered_css {selector : String} (h : (Selector.parse selector).toOption.isSome)
    (text : Option Wording) : (css selector text).Answered := by
  intro p
  unfold Page.find
  dsimp only
  cases hparse : Selector.parse selector with
  | ok s => exact ⟨_, rfl⟩
  | error e =>
    rw [hparse] at h
    contradiction

namespace Browser

variable {b : Browser} {h : Handle}

theorem respond_query {q : Query} (hq : q.Answered) (b : Browser) :
    ∃ found, b.page.find q = .ok found ∧ b.respond (.query q) = (.ok (b.handles found), b) := by
  obtain ⟨found, hfind⟩ := hq b.page
  refine ⟨found, hfind, ?_⟩
  unfold respond
  dsimp only
  rw [hfind]

theorem respond_click_of_tag (hlive : b.isLive h) (htag : h.tag ≠ "a") :
    b.respond (.click h) = (.ok (), b.enter (.click h.id)) := by
  unfold respond
  dsimp only
  rw [withElement_of_isLive hlive, linkTarget?_of_tag hlive htag]
  rfl

end Browser

theorem Strategy.finish_look_of_error {s : Strategy} {b : Browser} {e : SessionError}
    (h : b.page.find s.question = .error e) :
    s.look.finish b = (.error (.ofSession s.name e), b) := by
  have hrespond : b.respond (.query s.question) = (.error e, b) := by
    unfold Browser.respond
    dsimp only
    rw [h]
  unfold look
  rw [Procedure.finish_do, Procedure.finish_ask, hrespond]
  rfl

theorem Strategy.finish_look_of_ok {s : Strategy} {b : Browser} {ids : List Nat}
    (h : b.page.find s.question = .ok ids) :
    s.look.finish b = (.ok (s.pick (b.handles ids)), b) := by
  have hrespond : b.respond (.query s.question) = (.ok (b.handles ids), b) := by
    unfold Browser.respond
    dsimp only
    rw [h]
  unfold look
  rw [Procedure.finish_do, Procedure.finish_ask, hrespond]
  rfl

theorem Strategy.pick_subset (s : Strategy) (found : List Handle) : s.pick found ⊆ found := by
  cases s with
  | query t q => exact List.Subset.refl _
  | nth selector index least =>
    unfold pick
    dsimp only
    split
    · exact List.nil_subset _
    · exact List.Subset.trans (List.take_subset _ _) (List.drop_subset _ _)

/-- A search finds what a query of one of its strategies finds, and leaves the browser as it is. -/
theorem Search.finish_settle (strategies : List Strategy) (b : Browser) :
    ((settle strategies).finish b).2 = b ∧
      ∀ found, ((settle strategies).finish b).1 = some found →
        ∃ s ∈ strategies, ∃ ids, b.page.find s.question = .ok ids ∧
          found.element ∈ b.handles ids := by
  induction strategies with
  | nil => exact ⟨rfl, nofun⟩
  | cons s rest ih =>
    have hlater : ((settle rest).finish b).2 = b ∧
        ∀ found, ((settle rest).finish b).1 = some found →
          ∃ s' ∈ s :: rest, ∃ ids, b.page.find s'.question = .ok ids ∧
            found.element ∈ b.handles ids := by
      refine ⟨ih.1, fun found hfound => ?_⟩
      obtain ⟨s', hs', hrest⟩ := ih.2 found hfound
      exact ⟨s', List.mem_cons_of_mem _ hs', hrest⟩
    unfold settle
    rw [Procedure.finish_do]
    cases hfind : b.page.find s.question with
    | error e =>
      rw [Strategy.finish_look_of_error hfind]
      exact hlater
    | ok ids =>
      rw [Strategy.finish_look_of_ok hfind]
      cases hpick : s.pick (b.handles ids) with
      | nil => exact hlater
      | cons h more =>
        refine ⟨rfl, fun found hfound => ⟨s, List.mem_cons_self, ids, hfind, ?_⟩⟩
        obtain rfl := Option.some.inj hfound
        exact s.pick_subset _ (hpick ▸ List.mem_cons_self)

namespace Script

variable {kinds : List String} {P : Browser → Prop}

theorem meets_locate {T : Handle → Browser → Prop} (s : Search)
    (h : ∀ b, P b → ∀ strategy ∈ s.strategies, ∀ ids, b.page.find strategy.question = .ok ids →
      ∀ found ∈ b.handles ids, T found b) :
    Meets kinds P (locate s) fun r b => P b ∧ ∀ found, r = some found → T found.element b := by
  rw [locate_eq]
  refine meets_lift fun b hb => ?_
  obtain ⟨hsame, hfound⟩ := Search.finish_settle s.strategies b
  rw [hsame]
  refine ⟨hb, fun found hr => ?_⟩
  obtain ⟨strategy, hs, ids, hfind, hmem⟩ := hfound found hr
  exact h b hb strategy hs ids hfind _ hmem

/-- What goes on with a search goes on without an element, or with one that is live. -/
theorem only_found {s : Search} {f : Option Found → Script α} (hnone : FailsOnly kinds P (f none))
    (hsome : ∀ found, FailsOnly kinds (·.isLive found.element) (f (some found))) :
    FailsOnly kinds P (locate s >>= f) := by
  refine (meets_locate (T := fun h b => b.isLive h) s fun b _ _ _ ids hfind found hmem =>
    Browser.isLive_of_found hfind hmem).bind fun r => ?_
  cases r with
  | none => exact hnone.imp (fun b hb => hb.1) fun _ _ h => h
  | some found => exact (hsome found).imp (fun b hb => hb.2 found rfl) fun _ _ h => h

theorem only_require {s : Search} {f : Found → Script α} (hk : "required_element_missing" ∈ kinds)
    (hsome : ∀ found, FailsOnly kinds (·.isLive found.element) (f found)) :
    FailsOnly kinds P (require s >>= f) := by
  rw [require_eq, bind_assoc]
  refine only_found ?_ fun found => ?_
  · exact (meets_throw (Q := fun _ _ => False) hk).bind fun _ => ⟨fun _ _ h => h.elim⟩
  · rw [pure_bind]
    exact hsome found

theorem only_query {q : Query} {f : List Handle → Script α} (hq : q.Answered)
    (h : ∀ found, FailsOnly kinds (fun b => ∀ h ∈ found, b.isLive h) (f found)) :
    FailsOnly kinds P (call (.query q) >>= f) := by
  refine (meets_call fun b _ => ?_).bind h
  obtain ⟨ids, hfind, hrespond⟩ := b.respond_query hq
  rw [hrespond]
  exact ⟨_, rfl, fun h hh => Browser.isLive_of_found hfind hh⟩

theorem only_count {selector : String} {f : Nat → Script α}
    (hs : (Selector.parse selector).toOption.isSome)
    (h : ∀ n, FailsOnly kinds (fun _ => True) (f n)) : FailsOnly kinds P (count selector >>= f) := by
  unfold count
  rw [bind_assoc]
  refine only_query (Query.answered_css hs none) fun found => ?_
  rw [pure_bind]
  exact (h found.length).anywhere

section Live

variable {h : Handle}

theorem meets_click : Meets kinds (·.isLive h) (call (.click h)) fun _ _ => True :=
  meets_call fun _ hlive => ⟨(), congrArg Prod.fst (Browser.withElement_of_isLive hlive _), trivial⟩

theorem meets_fill (value : String) :
    Meets kinds (·.isLive h) (call (.fill h value)) fun _ b => b.isLive h := by
  refine meets_call fun b hlive => ?_
  have hrespond : b.respond (.fill h value) = (.ok (), _) := Browser.withElement_of_isLive hlive _
  rw [hrespond]
  exact ⟨(), rfl, Browser.isLive_setValue hlive h.id value⟩

theorem meets_press (key : String) :
    Meets kinds (·.isLive h) (call (.press h key)) fun _ b => b.isLive h := by
  refine meets_call fun b hlive => ?_
  have hrespond : b.respond (.press h key) = (.ok (), _) := Browser.withElement_of_isLive hlive _
  rw [hrespond]
  exact ⟨(), rfl, hlive⟩

theorem meets_ofElement {c : Call} (answer : Browser → c.Answer)
    (hc : ∀ b : Browser, b.respond c = b.withElement h (answer b, b)) {P : Browser → Prop}
    (hP : ∀ b, P b → b.isLive h) : Meets kinds P (call c) fun _ => P := by
  refine meets_call fun b hb => ?_
  rw [hc b, Browser.withElement_of_isLive (hP b hb)]
  exact ⟨_, rfl, hb⟩

theorem only_click {next : Unit → Script α} (hnext : FailsOnly kinds (fun _ => True) (next ())) :
    FailsOnly kinds (·.isLive h) (call (.click h) >>= next) :=
  meets_click.bind fun _ => hnext

theorem only_clickAndSettle {ms : Nat} {next : Script α}
    (hnext : FailsOnly kinds (fun _ => True) next) :
    FailsOnly kinds (·.isLive h) (call (.click h) >>= fun _ => settle ms >>= fun _ => next) :=
  only_click (only_settle hnext)

theorem only_fill {value : String} {next : Unit → Script α}
    (hnext : FailsOnly kinds (·.isLive h) (next ())) :
    FailsOnly kinds (·.isLive h) (call (.fill h value) >>= next) :=
  (meets_fill value).bind fun _ => hnext

theorem only_press {key : String} {next : Unit → Script α}
    (hnext : FailsOnly kinds (·.isLive h) (next ())) :
    FailsOnly kinds (·.isLive h) (call (.press h key) >>= next) :=
  (meets_press key).bind fun _ => hnext

theorem only_text {next : String → Script α} (hnext : ∀ a, FailsOnly kinds (·.isLive h) (next a)) :
    FailsOnly kinds (·.isLive h) (call (.text h) >>= next) :=
  (meets_ofElement (fun b => b.page.textContent h.id) (fun _ => rfl) fun _ hb => hb).bind hnext

end Live

theorem only_clickIfFound (s : Search) (ms : Nat) (done : String) :
    FailsOnly kinds P (clickIfFound s ms done) :=
  only_found (only_pure _) fun _ => only_clickAndSettle (only_pure _)

theorem only_firstText {s : Search} {f : Option String → Script α}
    (h : ∀ text, FailsOnly kinds (fun _ => True) (f text)) :
    FailsOnly kinds P (firstText s >>= f) := by
  unfold firstText
  rw [bind_assoc]
  refine only_found ?_ fun found => ?_
  · rw [pure_bind]
    exact (h none).anywhere
  · rw [bind_assoc]
    refine only_text fun text => ?_
    rw [pure_bind]
    exact (h (some text)).anywhere

end Script

end Walkthrough
