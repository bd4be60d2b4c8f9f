import Walkthrough.Proofs.Browser.Selecting
import Walkthrough.Proofs.Walk.Links

namespace Walkthrough

namespace Browser

/-- Nothing has been loaded yet, or the page is that of the URL with values entered. -/
def IsLoaded (site : Site) (b : Browser) : Prop :=
  b.site = site ∧
    (b.page = Page.blank ∨ ∃ fills, b.page = (site.route b.url).page.filled fills)

theorem isLoaded_start (site : Site) : (start site).IsLoaded site :=
  ⟨rfl, .inl rfl⟩

variable {site : Site} {b : Browser}

theorem IsLoaded.respond (h : b.IsLoaded site) (c : Call) : (b.respond c).2.IsLoaded site := by
  obtain ⟨hsite, hpage⟩ := h
  have hfollows := b.follows_respond c
  refine ⟨hfollows.site.trans hsite, ?_⟩
  cases hload : b.loads? c with
  | some key =>
    have hurl : (b.respond c).2.url = key := by
      rw [hfollows.url, hload]
      rfl
    have hloaded : (b.respond c).2.page = (site.route key).page := by
      rw [hfollows.page key hload, hsite]
    right
    refine ⟨[], ?_⟩
    rw [hloaded, hurl, Page.filled_nil]
  | none =>
    have hurl : (b.respond c).2.url = b.url := by
      rw [hfollows.url, hload]
      rfl
    rw [page_respond hload, hurl]
    rcases hpage with hblank | ⟨fills, hfilled⟩
    · left
      rw [hblank]
      rfl
    · right
      rw [hfilled, Page.filled_filled]
      exact ⟨_, rfl⟩

end Browser

def Page.cards (p : Page) : List Nat :=
  match p.find (.css Script.browseCards none) with
  | .ok found => found
  | .error _ => []

namespace Page

theorem find_cards (p : Page) : p.find (.css Script.browseCards none) = .ok p.cards := by
  obtain ⟨found, hfind⟩ := p.find_of_selector
    (by decide +kernel : (Selector.parse Script.browseCards).isOk)
  unfold cards
  rw [hfind]

theorem cards_filled (p : Page) (fills : List (Nat × String)) :
    (p.filled fills).cards = p.cards := by
  unfold cards
  rw [p.find_filled fills (by decide +kernel)]

end Page

namespace Browser

/-- The browser after a click on a card and a step back. -/
def viewed (b : Browser) (i : Nat) : Browser :=
  (((b.enter (.click i)).follow (b.linkTarget? i)).respond .goBack).2

/-- A step back after a click on the card leads back: the click has led away, or there is nowhere
else to go back to. -/
def ComesBack (b : Browser) (i : Nat) : Prop :=
  b.history = [] ∨ (b.linkTarget? i).isSome

/-- There is a card at a place of the page, and viewing it leads back. -/
def Returns (b : Browser) (k : Nat) : Prop :=
  ∃ i, b.page.cards[k]? = some i ∧ b.ComesBack i

/-- There is a card at a place of the page, and viewing it does not lead back. -/
def Strays (b : Browser) (k : Nat) : Prop :=
  ∃ i, b.page.cards[k]? = some i ∧ ¬ b.ComesBack i

/-- A browser that shows the URL on top of a stack, with values entered, and can go back to those
below. -/
structure At (site : Site) (stack : List String) (b : Browser) : Prop where
  site_eq : b.site = site
  stack_eq : b.url :: b.history = stack
  page : ∃ fills, b.page = (site.route b.url).page.filled fills

variable {site : Site} {stack : List String} {b b' : Browser} {i : Nat}

theorem At.cards_eq (h : b.At site stack) (h' : b'.At site stack) :
    b'.page.cards = b.page.cards := by
  obtain ⟨fills, hpage⟩ := h.page
  obtain ⟨fills', hpage'⟩ := h'.page
  obtain ⟨hurl, -⟩ := List.cons.inj (h'.stack_eq.trans h.stack_eq.symm)
  rw [hpage, hpage', Page.cards_filled, Page.cards_filled, hurl]

theorem At.linkTarget?_eq (h : b.At site stack) (hi : i ∈ b.page.cards) :
    b.linkTarget? i = ((start site).load b.url).linkTarget? i := by
  obtain ⟨fills, hpage⟩ := h.page
  have hsize : i < b.page.size := Page.lt_size_of_mem_find b.page.find_cards hi
  rw [hpage, Page.size_filled] at hsize
  let fresh : Browser := (start site).load b.url
  have hcard : fresh.page.element? i = some ((site.route b.url).page.elements.get ⟨i, hsize⟩) :=
    List.getElem?_eq_getElem hsize
  have hfilled : b.page = fresh.page.filled fills := hpage
  exact linkTarget?_of_filled hfilled rfl hcard

theorem At.comesBack_iff (h : b.At site stack) (h' : b'.At site stack) (hi : i ∈ b.page.cards) :
    b'.ComesBack i ↔ b.ComesBack i := by
  obtain ⟨hurl, hhistory⟩ := List.cons.inj (h'.stack_eq.trans h.stack_eq.symm)
  have hi' : i ∈ b'.page.cards := by
    rwa [h.cards_eq h']
  unfold ComesBack
  rw [h.linkTarget?_eq hi, h'.linkTarget?_eq hi', hurl, hhistory]

theorem At.returns_iff (h : b.At site stack) (h' : b'.At site stack) (k : Nat) :
    b'.Returns k ↔ b.Returns k := by
  unfold Returns
  rw [h.cards_eq h']
  exact exists_congr fun i => and_congr_right fun hi =>
    h.comesBack_iff h' (List.mem_of_getElem? hi)

theorem At.strays_iff (h : b.At site stack) (h' : b'.At site stack) (k : Nat) :
    b'.Strays k ↔ b.Strays k := by
  unfold Strays
  rw [h.cards_eq h']
  exact exists_congr fun i => and_congr_right fun hi =>
    not_congr (h.comesBack_iff h' (List.mem_of_getElem? hi))

theorem at_goBack {last : String} {earlier : List String} (hsite : b.site = site)
    (hhistory : b.history = last :: earlier) (hnormal : Url.normalize last = last) :
    (b.respond .goBack).2.At site (last :: earlier) := by
  rw [respond_goBack_of_cons hhistory, hnormal]
  refine ⟨hsite, rfl, [], ?_⟩
  rw [Page.filled_nil]
  exact congrArg (fun s : Site => (s.route last).page) hsite

theorem At.viewed_cases (h : b.At site stack) (hnormal : ∀ url ∈ stack, Url.normalize url = url)
    (i : Nat) :
    (b.ComesBack i ∧ (b.viewed i).At site stack) ∨
      ¬ b.ComesBack i ∧ ∃ url below, stack = url :: below ∧ (b.viewed i).At site below := by
  unfold ComesBack viewed
  obtain ⟨hsite, rfl, fills, hpage⟩ := h
  cases hlink : b.linkTarget? i with
  | some target =>
    -- the click has put the page on top of the history, and the step back takes it from there
    have hback := at_goBack (b := (b.enter (.click i)).visit (Url.normalize target)) hsite rfl
      (hnormal b.url List.mem_cons_self)
    exact .inl ⟨.inr rfl, hback⟩
  | none =>
    cases hhistory : b.history with
    | nil =>
      have hstay := respond_goBack_of_nil (b := b.enter (.click i)) hhistory
      refine .inl ⟨.inl rfl, ?_⟩
      rw [follow, hstay]
      exact ⟨hsite, congrArg (List.cons b.url) hhistory, fills, hpage⟩
    | cons last earlier =>
      have hlast : last ∈ b.url :: b.history := by simp [hhistory]
      have hback := at_goBack (b := b.enter (.click i)) hsite hhistory (hnormal last hlast)
      exact .inr ⟨by simp, b.url, last :: earlier, rfl, hback⟩

end Browser

namespace Script

variable {v : View}

theorem run_settle_none [Host σ] (ms : Nat) (s : Stage σ) :
    Procedure.run none (settle ms v) s =
      (some (.ok ()), { s with clock := s.clock + v.settings.pause ms }) := by
  unfold settle
  rw [settings_bind]
  by_cases hpause : 0 < v.settings.pause ms
  · rw [if_pos hpause]
    rfl
  · have hzero : v.settings.pause ms = 0 := by omega
    rw [if_neg hpause, hzero]
    rfl

theorem run_attempt [Host σ] {m : Script α} {d : Option Nat} {s after : Stage σ}
    {r : Except StepError α} (h : Procedure.run d (m v) s = (some r, after)) :
    Procedure.run d (attempt m v) s = (some (.ok r), after) := by
  have hbind := Procedure.run_bind (m v)
    (fun r => Procedure.done (.ok r : Except StepError (Except StepError α))) d s
  rw [h] at hbind
  exact hbind

/-- To view a card is to click it and to step back; it fails if there is no such card. -/
theorem run_viewItem (index : Nat) (s : Stage Browser) :
    Procedure.run none (viewItem index v) s =
      match s.host.page.cards[index]? with
      | none => (some (.error (.elementMissing ("item " ++ toString (index + 1)))), s)
      | some i => (some (.ok ()),
          ⟨s.host.viewed i, s.clock + v.settings.pause 1000 + v.settings.pause 1000, s.last⟩) := by
  have hquery : Host.respond (.query (.css browseCards none)) s.host =
      (.ok (s.host.handles s.host.page.cards), s.host) :=
    Browser.respond_query_of_find s.host.page.find_cards
  have hhandle : (s.host.handles s.host.page.cards)[index]? = s.host.page.cards[index]?.map fun i =>
      ⟨i, ((s.host.page.element? i).map (·.tag)).getD ""⟩ :=
    List.getElem?_map
  unfold viewItem
  rw [run_bind_of_ok (run_call_of_ok hquery v none), hhandle]
  cases hcard : s.host.page.cards[index]? with
  | none => rfl
  | some i =>
    let card : Handle := ⟨i, ((s.host.page.element? i).map (·.tag)).getD ""⟩
    have hmem : card ∈ s.host.handles s.host.page.cards :=
      List.mem_map_of_mem (List.mem_of_getElem? hcard)
    have hlive : s.host.isLive card := Browser.isLive_of_found s.host.page.find_cards hmem
    let away : Browser := (s.host.enter (.click i)).follow (s.host.linkTarget? i)
    have hclick : Host.respond (.click card) s.host = (.ok (), away) :=
      Browser.withElement_of_isLive hlive _
    have hback : Host.respond .goBack away = (.ok (), s.host.viewed i) := by
      change away.respond .goBack = (_, (away.respond .goBack).2)
      cases hhistory : away.history with
      | nil => rw [Browser.respond_goBack_of_nil hhistory]
      | cons last earlier => rw [Browser.respond_goBack_of_cons hhistory]
    rw [Option.map_some]
    dsimp only
    rw [run_bind_of_ok (run_call_of_ok hclick v none), run_bind_of_ok (run_settle_none 1000 _),
      run_bind_of_ok (run_call_of_ok hback v none), run_settle_none]

theorem viewItem_step {site : Site} {stack : List String} {s : Stage Browser}
    (h : s.host.At site stack) (hnormal : ∀ url ∈ stack, Url.normalize url = url) (k : Nat) :
    ∃ (r : Except StepError Unit) (after : Stage Browser) (left : List String),
      Procedure.run none (viewItem k v) s = (some r, after) ∧ after.host.At site left ∧
      (left = stack ∧ ¬ s.host.Strays k ∨ (∃ url, stack = url :: left) ∧ ¬ s.host.Returns k) ∧
      (s.host.Returns k → r.isOk) := by
  have hview := run_viewItem (v := v) k s
  cases hcard : s.host.page.cards[k]? with
  | none =>
    rw [hcard] at hview
    refine ⟨_, s, stack, hview, h, .inl ⟨rfl, ?_⟩, ?_⟩
    · rintro ⟨i, hi, -⟩
      rw [hcard] at hi
      contradiction
    · rintro ⟨i, hi, -⟩
      rw [hcard] at hi
      contradiction
  | some i =>
    rw [hcard] at hview
    rcases h.viewed_cases hnormal i with ⟨hback, hstays⟩ | ⟨haway, url, below, hstack, hpops⟩
    · refine ⟨_, _, stack, hview, hstays, .inl ⟨rfl, ?_⟩, fun _ => rfl⟩
      rintro ⟨j, hj, hnot⟩
      obtain rfl := Option.some.inj (hcard.symm.trans hj)
      exact hnot hback
    · refine ⟨_, _, below, hview, hpops, .inr ⟨⟨url, hstack⟩, ?_⟩, fun _ => rfl⟩
      rintro ⟨j, hj, hcomes⟩
      obtain rfl := Option.some.inj (hcard.symm.trans hj)
      exact haway hcomes

/-- Where cards are viewed one after the other, the stack of URLs only gets shorter. It stays as it
is, and all cards are viewed, if each of them leads back; it does not if one of them does not. -/
theorem run_viewItems {site : Site} {stack : List String} {s : Stage Browser}
    (h : s.host.At site stack) (hnormal : ∀ url ∈ stack, Url.normalize url = url)
    (places : List Nat) :
    ∃ (n : Nat) (after : Stage Browser) (left : List String),
      Procedure.run none (viewItems places v) s = (some (.ok n), after) ∧
      after.host.At site left ∧ left <:+ stack ∧
      ((∀ k ∈ places, s.host.Returns k) → left = stack ∧ n = places.length) ∧
      ((∃ k ∈ places, s.host.Strays k) → left.length < stack.length) := by
  -- the induction is on the places; what one card leaves of the stack is the stack of the rest
  induction places generalizing s stack with
  | nil => exact ⟨0, s, stack, rfl, h, List.suffix_rfl, fun _ => ⟨rfl, rfl⟩, by simp⟩
  | cons k rest ih =>
    obtain ⟨r, mid, left₁, hview, hmid, hleft₁, hok⟩ := viewItem_step (v := v) h hnormal k
    have hsuffix₁ : left₁ <:+ stack := by
      rcases hleft₁ with ⟨rfl, -⟩ | ⟨⟨url, rfl⟩, -⟩
      · exact List.suffix_rfl
      · exact List.suffix_cons url left₁
    obtain ⟨n, after, left, hrun, hat, hsuffix, hall, hsome⟩ :=
      ih hmid fun url hurl => hnormal url (hsuffix₁.subset hurl)
    refine ⟨if r.isOk then n + 1 else n, after, left, ?_, hat, hsuffix.trans hsuffix₁,
      fun hgood => ?_, fun hbad => ?_⟩
    · unfold viewItems
      rw [run_bind_of_ok (run_attempt hview), run_bind_of_ok hrun]
      rfl
    · obtain ⟨hhead, hrest⟩ := List.forall_mem_cons.mp hgood
      rcases hleft₁ with ⟨rfl, -⟩ | ⟨-, hnot⟩
      · obtain ⟨hleft, hn⟩ := hall fun j hj => (h.returns_iff hmid j).mpr (hrest j hj)
        rw [if_pos (hok hhead), hn, List.length_cons]
        exact ⟨hleft, rfl⟩
      · exact absurd hhead hnot
    · rcases hleft₁ with ⟨rfl, hstill⟩ | ⟨⟨url, rfl⟩, -⟩
      · -- the card is not the one that strays, and the page is still the same
        obtain ⟨j, hj, hstrays⟩ := hbad
        rcases List.mem_cons.mp hj with rfl | hj
        · exact absurd hstrays hstill
        · exact hsome ⟨j, hj, (h.strays_iff hmid j).mpr hstrays⟩
      · exact Nat.lt_succ_of_le hsuffix.length_le

/-- The same for the first three cards of a page, be it one that was loaded or the blank one. -/
theorem exists_run_viewItems {site : Site} {s : Stage Browser} (h : s.host.IsLoaded site)
    (hnormal : ∀ url ∈ s.host.url :: s.host.history, Url.normalize url = url) :
    ∃ (n : Nat) (after : Stage Browser),
      Procedure.run none (viewItems (List.range (min s.host.page.cards.length 3)) v) s =
        (some (.ok n), after) ∧
      (after.host.url :: after.host.history) <:+ (s.host.url :: s.host.history) ∧
      ((∀ i ∈ s.host.page.cards.take 3, s.host.ComesBack i) →
        after.host.url = s.host.url ∧ after.host.history = s.host.history ∧
          n = min s.host.page.cards.length 3) ∧
      ((∃ i ∈ s.host.page.cards.take 3, ¬ s.host.ComesBack i) →
        after.host.history.length < s.host.history.length) := by
  obtain ⟨hsite, hblank | hfilled⟩ := h
  · -- nothing has been loaded, so there are no cards
    have hcards : s.host.page.cards = [] := by
      rw [hblank]
      decide +kernel
    rw [hcards]
    exact ⟨0, s, rfl, List.suffix_rfl, fun _ => ⟨rfl, rfl, rfl⟩, by simp⟩
  · obtain ⟨n, after, left, hrun, hat, hsuffix, hall, hsome⟩ := run_viewItems (v := v)
      ⟨hsite, rfl, hfilled⟩ hnormal (List.range (min s.host.page.cards.length 3))
    obtain rfl := hat.stack_eq
    refine ⟨n, after, hrun, hsuffix, fun hgood => ?_, fun hbad => ?_⟩
    · have hreturns : ∀ k ∈ List.range (min s.host.page.cards.length 3), s.host.Returns k := by
        intro k hk
        have hlt : k < min s.host.page.cards.length 3 := List.mem_range.mp hk
        have hcard : s.host.page.cards[k]? = some (s.host.page.cards.get ⟨k, by omega⟩) :=
          List.getElem?_eq_getElem _
        have htake : (s.host.page.cards.take 3)[k]? = s.host.page.cards[k]? :=
          List.getElem?_take_of_lt (by omega)
        exact ⟨_, hcard, hgood _ (List.mem_of_getElem? (htake.trans hcard))⟩
      obtain ⟨hleft, hn⟩ := hall hreturns
      obtain ⟨hurl, hhistory⟩ := List.cons.inj hleft
      exact ⟨hurl, hhistory, hn.trans List.length_range⟩
    · have hstrays : ∃ k ∈ List.range (min s.host.page.cards.length 3), s.host.Strays k := by
        obtain ⟨i, hi, hnot⟩ := hbad
        obtain ⟨k, hk⟩ := List.getElem?_of_mem hi
        have hlt : k < (s.host.page.cards.take 3).length := (List.getElem?_eq_some_iff.mp hk).1
        rw [List.length_take] at hlt
        have htake : (s.host.page.cards.take 3)[k]? = s.host.page.cards[k]? :=
          List.getElem?_take_of_lt (by omega)
        exact ⟨k, List.mem_range.mpr (by omega), i, htake.symm.trans hk, hnot⟩
      have hshorter := hsome hstrays
      simpa using hshorter

theorem run_browseItems {s after : Stage Browser} {n : Nat}
    (h : Procedure.run none (viewItems (List.range (min s.host.page.cards.length 3)) v) s =
      (some (.ok n), after)) :
    let total := s.host.page.cards.length
    let message := "viewed " ++ toString n ++ " of " ++ toString total ++ " items"
    Procedure.run none (browseItems v) s =
      (some (.ok (if n = min total 3 then .passed message
        else .warned (message ++ " (" ++ toString (min total 3 - n) ++ " failed)"))), after) := by
  intro total message
  have hquery : Host.respond (.query (.css browseCards none)) s.host =
      (.ok (s.host.handles s.host.page.cards), s.host) :=
    Browser.respond_query_of_find s.host.page.find_cards
  have hlength : (s.host.handles s.host.page.cards).length = total := List.length_map _
  have hcount : Procedure.run none (count browseCards v) s = (some (.ok total), s) := by
    unfold count
    rw [run_bind_of_ok (run_call_of_ok hquery v none), hlength]
    rfl
  unfold browseItems
  rw [run_bind_of_ok hcount, run_bind_of_ok h]
  by_cases hn : n = min total 3
  · rw [if_pos hn, if_pos (by simpa using hn)]
    rfl
  · rw [if_neg hn, if_neg (by simpa using hn)]
    rfl

end Script

namespace Course

theorem runStep_browseItems {c : Course} {step : Step} {command : Command} {args : Arguments}
    (hfind : c.catalogue.find? step.text = some (command, args))
    (heffect : command.effect = .act .browseItems) {s after : Stage Browser} {n : Nat}
    (hrun : Procedure.run none
        (Script.viewItems (List.range (min s.host.page.cards.length 3)) (c.view s)) s =
      (some (.ok n), after)) :
    let total := s.host.page.cards.length
    let message := "viewed " ++ toString n ++ " of " ++ toString total ++ " items"
    (c.runStep none step s).2 = after ∧
      (c.runStep none step s).1.map (fun r => (r.status, r.message)) =
        some (if n = min total 3 then (.passed, message)
          else (.warned, message ++ " (" ++ toString (min total 3 - n) ++ " failed)")) := by
  intro total message
  have hbrowse : Procedure.run none (Action.browseItems.script args (c.view s)) s = _ :=
    Script.run_browseItems hrun
  rw [runStep_of_some hfind, procedure_of_act heffect, hbrowse]
  refine ⟨rfl, ?_⟩
  by_cases hn : n = min total 3
  · rw [if_pos hn, if_pos hn]
    rfl
  · rw [if_neg hn, if_neg hn]
    rfl

/-- A step that browses the items of a page never ends further on than it started: what is left is
the end of the stack of URLs. It ends where it started, and has viewed the first three cards, if each
of them is a link or there is nothing to go back to. If there is, and one of them leads nowhere, the
step back after the click on it leaves the page, and the step ends further back. -/
theorem items_viewed {c : Course} {step : Step} {command : Command} {args : Arguments}
    (hfind : c.catalogue.find? step.text = some (command, args))
    (heffect : command.effect = .act .browseItems) {site : Site} {start s : Stage Browser}
    (hstart : start.host = Browser.start site) (hreach : c.Reach start s)
    (hnormal : ∀ url ∈ s.host.url :: s.host.history, Url.normalize url = url) :
    let cards := s.host.page.cards
    let after := (c.runStep none step s).2
    (after.host.url :: after.host.history) <:+ (s.host.url :: s.host.history) ∧
      (s.host.history = [] ∨ (∀ i ∈ cards.take 3, (s.host.linkTarget? i).isSome) →
        after.host.url = s.host.url ∧ after.host.history = s.host.history ∧
          (c.runStep none step s).1.map (fun r => (r.status, r.message)) =
            some (.passed, "viewed " ++ toString (min cards.length 3) ++ " of " ++
              toString cards.length ++ " items")) ∧
      (s.host.history ≠ [] → (∃ i ∈ cards.take 3, s.host.linkTarget? i = none) →
        after.host.history.length < s.host.history.length) := by
  intro cards after
  have hI := Stage.invariant_of_respond (σ := Browser) (J := Browser.IsLoaded site)
    fun call b h => h.respond call
  have hloaded : s.host.IsLoaded site :=
    hreach.invariant hI (by rw [hstart]; exact Browser.isLoaded_start site)
  obtain ⟨n, last, hrun, hsuffix, hall, hsome⟩ :=
    Script.exists_run_viewItems (v := c.view s) hloaded hnormal
  obtain ⟨hafter, hrecord⟩ := runStep_browseItems hfind heffect hrun
  have hlast : after = last := hafter
  rw [hlast]
  refine ⟨hsuffix, fun hgood => ?_, fun hbefore hbad => ?_⟩
  · have hback : ∀ i ∈ cards.take 3, s.host.ComesBack i := fun i hi =>
      hgood.imp_right fun hlinks => hlinks i hi
    obtain ⟨hurl, hhistory, hn⟩ := hall hback
    rw [if_pos hn, hn] at hrecord
    exact ⟨hurl, hhistory, hrecord⟩
  · have haway : ∃ i ∈ cards.take 3, ¬ s.host.ComesBack i := by
      obtain ⟨i, hi, hnone⟩ := hbad
      refine ⟨i, hi, ?_⟩
      rintro (hempty | hlink)
      · exact hbefore hempty
      · rw [hnone] at hlink
        contradiction
    exact hsome haway

theorem exists_find?_browseItems :
    ∃ command args, Catalogue.standard.find? "iterate through items" = some (command, args) ∧
      command.name = "iterate through items" ∧ command.effect = .act .browseItems :=
  Catalogue.exists_find?_of_row "^iterate through items$" (by simp [Catalogue.standardRows])
    (by decide +kernel) (by decide) (by decide)

def cardShop (card : Element) : Site :=
  Site.empty.addRoute "https://shop.test/" 200 ⟨[card, card], [], [], ⟨0, 0⟩⟩

/-- The cards of the shop are links: both are viewed, and the shop is shown again. -/
theorem items_viewed_linked :
    let c : Course := ⟨Catalogue.standard, Settings.standard, CaptureLimits.standard, 0⟩
    let site := cardShop ⟨"a", [("class", "card"), ("href", "/lamp")], "Lamp", none, false⟩
    let start : Stage Browser := ⟨Browser.start site, 0, none⟩
    let s := (c.run [⟨1, "open https://shop.test/", 1⟩] start).2
    let step : Step := ⟨2, "iterate through items", 2⟩
    let after := (c.runStep none step s).2
    (∃ command args, c.catalogue.find? step.text = some (command, args) ∧
        command.effect = .act .browseItems) ∧
      start.host = Browser.start site ∧ c.Reach start s ∧
      (∀ url ∈ s.host.url :: s.host.history, Url.normalize url = url) ∧
      (∀ i ∈ s.host.page.cards.take 3, (s.host.linkTarget? i).isSome) ∧
      after.host.url = "https://shop.test/" ∧ after.host.history = ["about:blank"] ∧
      (c.runStep none step s).1.map (fun r => (r.status, r.message)) =
        some (.passed, "viewed 2 of 2 items") := by
  intro c site start s step after
  have hline : ∃ command args, c.catalogue.find? step.text = some (command, args) ∧
      command.name = "iterate through items" ∧ command.effect = .act .browseItems :=
    exists_find?_browseItems
  have hreach : c.Reach start s := .run .refl _
  have hurl : s.host.url = "https://shop.test/" := by decide +kernel
  have hhistory : s.host.history = ["about:blank"] := by decide +kernel
  have hcards : s.host.page.cards = [0, 1] := by decide +kernel
  have hlinks : ∀ i ∈ s.host.page.cards.take 3, (s.host.linkTarget? i).isSome := by decide +kernel
  have hnormal : ∀ url ∈ s.host.url :: s.host.history, Url.normalize url = url := by
    rw [hurl, hhistory]
    decide +kernel
  clear_value s c
  obtain ⟨command, args, hfind, -, heffect⟩ := hline
  obtain ⟨-, hviewed, -⟩ := items_viewed hfind heffect rfl hreach hnormal
  obtain ⟨hback, hbefore, hrecord⟩ := hviewed (.inr hlinks)
  refine ⟨⟨command, args, hfind, heffect⟩, rfl, hreach, hnormal, hlinks, hback.trans hurl,
    hbefore.trans hhistory, ?_⟩
  rw [hrecord, hcards]
  rfl

/-- The cards of the shop are no links: the step back after a click on one leaves the shop. -/
theorem items_left_unlinked :
    let c : Course := ⟨Catalogue.standard, Settings.standard, CaptureLimits.standard, 0⟩
    let site := cardShop ⟨"div", [("class", "card")], "Lamp", none, false⟩
    let start : Stage Browser := ⟨Browser.start site, 0, none⟩
    let s := (c.run [⟨1, "open https://shop.test/", 1⟩] start).2
    let step : Step := ⟨2, "iterate through items", 2⟩
    let after := (c.runStep none step s).2
    c.Reach start s ∧ s.host.page.cards = [0, 1] ∧ s.host.url = "https://shop.test/" ∧
      after.host.url = "about:blank" ∧ after.host.url ≠ s.host.url := by
  intro c site start s step after
  have hline : ∃ command args, c.catalogue.find? step.text = some (command, args) ∧
      command.name = "iterate through items" ∧ command.effect = .act .browseItems :=
    exists_find?_browseItems
  have hreach : c.Reach start s := .run .refl _
  have hcards : s.host.page.cards = [0, 1] := by decide +kernel
  have hurl : s.host.url = "https://shop.test/" := by decide +kernel
  have hhistory : s.host.history = ["about:blank"] := by decide +kernel
  have hloaded : s.host.IsLoaded site := hreach.invariant
    (Stage.invariant_of_respond fun call b h => h.respond call) (Browser.isLoaded_start site)
  have hnone : s.host.linkTarget? 0 = none := by decide +kernel
  have hnormal : ∀ url ∈ s.host.url :: s.host.history, Url.normalize url = url := by
    rw [hurl, hhistory]
    decide +kernel
  clear_value s c
  obtain ⟨command, args, hfind, -, heffect⟩ := hline
  obtain ⟨n, last, hrun, hsuffix, -, hshorter⟩ :=
    Script.exists_run_viewItems (v := c.view s) hloaded hnormal
  obtain ⟨hafter, -⟩ := runStep_browseItems hfind heffect hrun
  have hstrays : ∃ i ∈ s.host.page.cards.take 3, ¬ s.host.ComesBack i := by
    rw [hcards]
    exact ⟨0, by simp, by simp [Browser.ComesBack, hhistory, hnone]⟩
  have hlength := hshorter hstrays
  rw [hhistory, List.length_singleton, Nat.lt_one_iff, List.length_eq_zero_iff] at hlength
  rw [hurl, hhistory, hlength] at hsuffix
  have hleft : last.host.url = "about:blank" := by
    simpa [List.suffix_cons_iff] using hsuffix
  refine ⟨hreach, hcards, hurl, ?_, ?_⟩
  · show (c.runStep none step s).2.host.url = _
    rw [hafter, hleft]
  · show (c.runStep none step s).2.host.url ≠ _
    rw [hafter, hleft, hurl]
    decide

end Course

end Walkthrough
