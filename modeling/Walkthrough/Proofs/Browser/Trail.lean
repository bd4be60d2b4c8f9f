import Mathlib.Data.List.Basic
import Walkthrough.Proofs.Browser.Turns

namespace Walkthrough

theorem Element.lookup_map (key value name : String) (l : List (String × String)) :
    (l.map fun a => if a.1 == key then (key, value) else a).lookup name =
      if name = key then (l.lookup key).map fun _ => value else l.lookup name := by
  induction l with
  | nil => split <;> rfl
  | cons a l ih =>
    obtain ⟨other, old⟩ := a
    rw [List.map_cons, List.lookup_cons, List.lookup_cons]
    by_cases hother : other = key
    · subst hother
      by_cases hname : name = other
      · simp [hname]
      · have hne : (name == other) = false := beq_eq_false_iff_ne.mpr hname
        simpa [hname, List.lookup_cons, hne] using ih
    · rw [if_neg (by simpa using hother), ih]
      have hne : (key == other) = false := beq_eq_false_iff_ne.mpr (Ne.symm hother)
      by_cases hname : name = key
      · simp [hname, hne]
      · simp [hname, List.lookup_cons]

theorem Element.isSome_lookup_map (key value : String) (l : List (String × String)) :
    ((l.map fun a => if a.1 == key then (key, value) else a).lookup key).isSome =
      (l.lookup key).isSome := by
  rw [lookup_map, if_pos rfl, Option.isSome_map]

theorem Element.setAttribute_setAttribute (e : Element) (name v w : String) :
    (e.setAttribute name v).setAttribute name w = e.setAttribute name w := by
  unfold setAttribute
  generalize Text.lowercase name = key
  by_cases h : (e.attributes.lookup key).isSome
  · have htwice := (isSome_lookup_map key v e.attributes).trans h
    simp only [h, htwice, if_true, List.map_map]
    congr 1
    refine List.map_congr_left fun a _ => ?_
    by_cases ha : a.1 = key <;> simp [ha]
  · have hnone : e.attributes.lookup key = none := Option.not_isSome_iff_eq_none.mp h
    have hkeys : ∀ a ∈ e.attributes, ¬ a.1 = key := by
      intro a ha hkey
      have hdiffers := List.lookup_eq_none_iff.mp hnone a ha
      simp [hkey] at hdiffers
    have hadded : ((e.attributes ++ [(key, v)]).lookup key).isSome := by
      simp [List.lookup_append]
    have hold : e.attributes.map (fun a => if a.1 == key then (key, w) else a) = e.attributes := by
      refine (List.map_congr_left fun a ha => ?_).trans (List.map_id _)
      simp [hkeys a ha]
    simp only [hnone, Option.isSome_none, Bool.false_eq_true, if_false, hadded, if_true,
      List.map_append, hold]
    simp

/-- A page where values have been entered, the first of each element counting. -/
def Page.filled (p : Page) (fills : List (Nat × String)) : Page :=
  { p with elements := p.elements.mapIdx fun i e =>
      match fills.lookup i with
      | some value => e.setAttribute "value" value
      | none => e }

theorem Page.filled_nil (p : Page) : p.filled [] = p := by
  have hsame : p.elements.mapIdx (fun _ e => e) = p.elements := by
    apply List.ext_getElem?
    intro i
    rw [List.getElem?_mapIdx, Option.map_id']
  unfold filled
  simp only [List.lookup_nil, hsame]

theorem Page.filled_cons (p : Page) (fills : List (Nat × String)) (i : Nat) (value : String) :
    p.filled ((i, value) :: fills) =
      { p.filled fills with
        elements := (p.filled fills).elements.modify i (·.setAttribute "value" value) } := by
  unfold filled
  congr 1
  apply List.ext_getElem?
  intro j
  rw [List.getElem?_modify, List.getElem?_mapIdx, List.getElem?_mapIdx, List.lookup_cons]
  by_cases hij : i = j
  · subst hij
    simp only [beq_self_eq_true, if_true, Option.map_eq_map, Option.map_map]
    apply Option.map_congr
    intro e _
    dsimp only [Function.comp]
    split
    · rw [Element.setAttribute_setAttribute]
    · rfl
  · have hne : (j == i) = false := beq_eq_false_iff_ne.mpr (Ne.symm hij)
    simp only [hne, if_neg hij]
    exact Option.map_id'.symm

/-- A stack of URLs that is never empty, and what was done on top of it. -/
structure Trail where
  top : String
  /-- What is below the top, the latest first. -/
  below : List String
  /-- All URLs whose pages were loaded, in this order. -/
  loads : List String
  /-- The values entered since the last load by the place of the element, the latest first. -/
  fills : List (Nat × String)
  /-- The references that were followed, before they were brought to their normal form. -/
  asked : List String
  deriving Repr, DecidableEq

namespace Trail

def start : Trail :=
  ⟨"about:blank", [], [], [], []⟩

def stack (t : Trail) : List String :=
  t.top :: t.below

/-- The page of the URL on top with the values entered; there is none before the first load. -/
def page (site : Site) (t : Trail) : Page :=
  (if t.loads.isEmpty then Page.blank else (site.route t.top).page).filled t.fills

def push (t : Trail) (reference : String) : Trail :=
  let url := Url.normalize reference
  ⟨url, t.top :: t.below, t.loads ++ [url], [], t.asked ++ [reference]⟩

def pop (t : Trail) : Trail :=
  match t.below with
  | [] => t
  | url :: earlier => ⟨url, earlier, t.loads ++ [url], [], t.asked⟩

/-- What the reference of a link comes to on top of a trail. -/
def link? (site : Site) (t : Trail) (h : Handle) : Option String :=
  if h.tag = "a" then
    ((t.page site).attribute? h.id "href").bind fun href =>
      ((Url.parse t.top).bind (·.join href)).toOption.map Url.toText
  else none

def shows (site : Site) (t : Trail) (h : Handle) : Bool :=
  (t.page site).hasTag h.id h.tag

/-- What a call makes of a trail. -/
def move (site : Site) (t : Trail) : Call → Trail
  | .navigate url => if (Url.parse url).toOption.isSome then t.push url else t
  | .goBack => t.pop
  | .click h =>
    match t.link? site h with
    | some reference => if t.shows site h then t.push reference else t
    | none => t
  | .fill h value => if t.shows site h then { t with fills := (h.id, value) :: t.fills } else t
  | _ => t

/-- The trail after calls from the start. -/
def after (site : Site) (calls : List Call) : Trail :=
  calls.foldl (move site) start

theorem asked_move (site : Site) (t : Trail) (c : Call) : t.asked <+: (t.move site c).asked := by
  unfold move pop
  split
  · split
    · exact List.prefix_append _ _
    · exact List.prefix_refl _
  · split <;> exact List.prefix_refl _
  · split
    · split
      · exact List.prefix_append _ _
      · exact List.prefix_refl _
    · exact List.prefix_refl _
  · split <;> exact List.prefix_refl _
  · exact List.prefix_refl _

theorem asked_foldl (site : Site) (calls : List Call) (t : Trail) :
    t.asked <+: (calls.foldl (move site) t).asked := by
  induction calls generalizing t with
  | nil => exact List.prefix_refl _
  | cons c rest ih => exact (t.asked_move site c).trans (ih _)

end Trail

namespace Browser

def afterCalls (b : Browser) (calls : List Call) : Browser :=
  calls.foldl (fun b c => (b.respond c).2) b

/-- What a browser shows, can go back to and has reported is what a trail tells, and no URL that it
can go back to changes on the way. -/
structure OnTrail (site : Site) (b : Browser) (t : Trail) : Prop where
  site_eq : b.site = site
  url : b.url = t.top
  history : b.history = t.below
  page : b.page = t.page site
  events : b.events = t.loads.flatMap fun url => reports url (site.route url)
  settled : ∀ url ∈ t.stack, Url.normalize url = url

theorem onTrail_start (site : Site) : (start site).OnTrail site .start where
  site_eq := rfl
  url := rfl
  history := rfl
  page := (Page.filled_nil Page.blank).symm
  events := rfl
  settled := by
    intro url hurl
    obtain rfl : url = "about:blank" := by simpa [Trail.stack, Trail.start] using hurl
    decide +kernel

variable {site : Site} {b : Browser} {t : Trail}

theorem OnTrail.enter (h : b.OnTrail site t) (i : Interaction) : (b.enter i).OnTrail site t :=
  ⟨h.site_eq, h.url, h.history, h.page, h.events, h.settled⟩

theorem OnTrail.visit (h : b.OnTrail site t) {reference : String}
    (hnormal : Url.normalize (Url.normalize reference) = Url.normalize reference) :
    (b.visit (Url.normalize reference)).OnTrail site (t.push reference) where
  site_eq := h.site_eq
  url := rfl
  history := congrArg₂ List.cons h.url h.history
  page := by
    have hloads : (t.push reference).loads.isEmpty = false := by simp [Trail.push]
    rw [Trail.page, hloads, if_neg (by simp)]
    exact (congrArg (fun s : Site => (s.route _).page) h.site_eq).trans (Page.filled_nil _).symm
  events := by
    have hall : (t.push reference).loads = t.loads ++ [Url.normalize reference] := rfl
    rw [hall, List.flatMap_append, ← h.events, List.flatMap_singleton, ← h.site_eq]
    rfl
  settled := by
    intro url hurl
    rcases List.mem_cons.mp hurl with rfl | hbelow
    · exact hnormal
    · exact h.settled url hbelow

theorem OnTrail.goBack (h : b.OnTrail site t) : (b.respond .goBack).2.OnTrail site t.pop := by
  cases hhistory : b.history with
  | nil =>
    have hpop : t.pop = t := by
      unfold Trail.pop
      rw [← h.history, hhistory]
    rw [respond_goBack_of_nil hhistory, hpop]
    exact h.enter .goBack
  | cons last earlier =>
    have hbelow : t.below = last :: earlier := h.history.symm.trans hhistory
    have hpop : t.pop = ⟨last, earlier, t.loads ++ [last], [], t.asked⟩ := by
      unfold Trail.pop
      rw [hbelow]
    -- on the way back the URL is brought to its normal form once more, which is where it was
    have hlast : Url.normalize last = last :=
      h.settled last (by simp [Trail.stack, hbelow])
    rw [respond_goBack_of_cons hhistory, hpop, hlast]
    refine ⟨h.site_eq, rfl, rfl, ?_, ?_, fun url hurl => ?_⟩
    · have hsome : (t.loads ++ [last]).isEmpty = false := by simp
      rw [Trail.page, hsome, if_neg (by simp)]
      exact (congrArg (fun s : Site => (s.route last).page) h.site_eq).trans (Page.filled_nil _).symm
    · rw [List.flatMap_append, ← h.events, List.flatMap_singleton, ← h.site_eq]
      rfl
    · apply h.settled
      have hmem : url ∈ last :: earlier := hurl
      rw [Trail.stack, hbelow]
      exact List.mem_cons_of_mem _ hmem

theorem OnTrail.fill (h : b.OnTrail site t) (i : Nat) (value : String) :
    (b.setValue i value).OnTrail site { t with fills := (i, value) :: t.fills } where
  site_eq := h.site_eq
  url := h.url
  history := h.history
  page := by
    have hpage := Page.filled_cons
      (if t.loads.isEmpty then Page.blank else (site.route t.top).page) t.fills i value
    rw [Trail.page, hpage]
    unfold setValue
    rw [h.page]
    rfl
  events := h.events
  settled := h.settled

theorem OnTrail.isLive (h : b.OnTrail site t) (handle : Handle) :
    b.isLive handle = t.shows site handle := by
  unfold Browser.isLive Trail.shows
  rw [h.page]

theorem OnTrail.linkTarget? (h : b.OnTrail site t) {handle : Handle} (hlive : b.isLive handle) :
    b.linkTarget? handle.id = t.link? site handle := by
  have htag : b.page.hasTag handle.id "a" = decide (handle.tag = "a") := by
    obtain ⟨e, he, hsame⟩ := element?_of_isLive hlive
    unfold Page.hasTag
    rw [he, Option.any_some, hsame]
    exact Bool.beq_eq_decide_eq _ _
  unfold Browser.linkTarget? Trail.link?
  rw [htag, h.page, h.url]
  simp

theorem OnTrail.navigate (h : b.OnTrail site t) (url : String)
    (hnormal : ∀ text ∈ (t.move site (.navigate url)).asked,
      Url.normalize (Url.normalize text) = Url.normalize text) :
    (b.respond (.navigate url)).2.OnTrail site (t.move site (.navigate url)) := by
  unfold Browser.respond
  dsimp only
  cases hurl : Url.parse url with
  | error e =>
    have hstay : t.move site (.navigate url) = t := by simp [Trail.move, hurl, Except.toOption]
    rw [hstay]
    exact h
  | ok u =>
    have hpush : t.move site (.navigate url) = t.push url := by
      simp [Trail.move, hurl, Except.toOption]
    have hkey : u.toText = Url.normalize url := by simp [Url.normalize, hurl]
    rw [hpush] at hnormal ⊢
    dsimp only
    rw [hkey]
    exact (h.enter _).visit (hnormal url (by simp [Trail.push]))

theorem OnTrail.click (h : b.OnTrail site t) (handle : Handle)
    (hnormal : ∀ text ∈ (t.move site (.click handle)).asked,
      Url.normalize (Url.normalize text) = Url.normalize text) :
    (b.respond (.click handle)).2.OnTrail site (t.move site (.click handle)) := by
  unfold Browser.respond withElement
  dsimp only
  by_cases hlive : b.isLive handle
  · have hshown : t.shows site handle := h.isLive handle ▸ hlive
    rw [if_pos hlive, h.linkTarget? hlive]
    cases hlink : t.link? site handle with
    | none =>
      have hstay : t.move site (.click handle) = t := by simp [Trail.move, hlink]
      rw [hstay]
      exact h.enter _
    | some reference =>
      have hpush : t.move site (.click handle) = t.push reference := by
        simp [Trail.move, hlink, hshown]
      rw [hpush] at hnormal ⊢
      exact (h.enter _).visit (hnormal reference (by simp [Trail.push]))
  · have hstay : t.move site (.click handle) = t := by
      have hhidden : t.shows site handle = false := by
        rw [← h.isLive handle]
        simpa using hlive
      unfold Trail.move
      dsimp only
      split <;> simp [hhidden]
    rw [if_neg hlive, hstay]
    exact h

/-- Every call moves the browser along its trail. -/
theorem OnTrail.respond (h : b.OnTrail site t) (c : Call)
    (hnormal : ∀ text ∈ (t.move site c).asked,
      Url.normalize (Url.normalize text) = Url.normalize text) :
    (b.respond c).2.OnTrail site (t.move site c) := by
  cases c with
  | navigate url => exact h.navigate url hnormal
  | goBack => exact h.goBack
  | click handle => exact h.click handle hnormal
  | fill handle value =>
    unfold Browser.respond withElement Trail.move
    dsimp only
    rw [h.isLive handle]
    split
    · exact (h.fill handle.id value).enter _
    · exact h
  | press handle key =>
    unfold Browser.respond withElement
    dsimp only
    split
    · exact h.enter _
    · exact h
  | query q =>
    unfold Browser.respond
    dsimp only
    split <;> exact h
  | text | attributeOf | inputValue =>
    unfold Browser.respond withElement
    dsimp only
    split <;> exact h
  | screenshot | request => exact h.enter _
  | currentUrl | loadTiming | images | viewport => exact h

theorem OnTrail.afterCalls (h : b.OnTrail site t) (calls : List Call)
    (hnormal : ∀ text ∈ (calls.foldl (Trail.move site) t).asked,
      Url.normalize (Url.normalize text) = Url.normalize text) :
    (b.afterCalls calls).OnTrail site (calls.foldl (Trail.move site) t) := by
  induction calls generalizing b t with
  | nil => exact h
  | cons c rest ih =>
    -- what this call asks for is still among what all of them have asked for in the end
    have hstep := h.respond c fun text htext =>
      hnormal text ((Trail.asked_foldl site rest _).subset htext)
    exact ih hstep hnormal

/-- The browser is a stack that starts with the blank page: to navigate to what is a URL and to
click a link that leads somewhere push the normal form of the target, going back pops the top unless
nothing is below it, and nothing else touches the stack. Its page is the one on top of the stack
with the last value entered into each element since it was loaded. -/
theorem afterCalls_is_trail (site : Site) (calls : List Call)
    (h : ∀ text ∈ (Trail.after site calls).asked,
      Url.normalize (Url.normalize text) = Url.normalize text) :
    let b := (start site).afterCalls calls
    let t := Trail.after site calls
    b.url :: b.history = t.stack ∧
      b.page = t.page site ∧
      b.events = t.loads.flatMap (fun url => reports url (site.route url)) ∧
      ∀ handle, ((b.respond (.click handle)).1.toBool = t.shows site handle) ∧
        ∀ value, (b.respond (.fill handle value)).1.toBool = t.shows site handle := by
  intro b t
  have htrail : b.OnTrail site t := (onTrail_start site).afterCalls calls h
  have hwith (handle : Handle) (after : Browser) :
      (b.withElement handle ((), after)).1.toBool = t.shows site handle := by
    rw [← htrail.isLive handle]
    unfold withElement
    cases b.isLive handle <;> rfl
  refine ⟨?_, htrail.page, htrail.events, fun handle => ⟨hwith handle _, fun value => hwith handle _⟩⟩
  rw [htrail.url, htrail.history]
  rfl

/-- A shop is opened, a link followed that leads to an empty page, and back in the shop only what is
entered there is on the page. -/
theorem afterCalls_is_trail_shop :
    let home : Page := ⟨[⟨"a", [("href", "/cart")], "Cart", none, false⟩,
      ⟨"input", [], "", none, false⟩], [], [], ⟨0, 0⟩⟩
    let site := Site.empty.addRoute "https://shop.test" 200 home
    let calls : List Call := [.navigate "https://SHOP.test", .fill ⟨1, "input"⟩ "1",
      .click ⟨0, "a"⟩, .fill ⟨1, "input"⟩ "2", .goBack, .fill ⟨1, "input"⟩ "3",
      .fill ⟨1, "input"⟩ "4"]
    let b := (start site).afterCalls calls
    (∀ text ∈ (Trail.after site calls).asked,
        Url.normalize (Url.normalize text) = Url.normalize text) ∧
      b.url :: b.history = ["https://shop.test/", "about:blank"] ∧
      b.page = home.filled [(1, "4")] ∧ b.events.length = 3 := by
  intro home site calls b
  have hnormal : ∀ text ∈ (Trail.after site calls).asked,
      Url.normalize (Url.normalize text) = Url.normalize text := by
    decide +kernel
  obtain ⟨hstack, hpage, hevents, -⟩ := afterCalls_is_trail site calls hnormal
  refine ⟨hnormal, hstack.trans ?_, hpage.trans ?_, ?_⟩
  · decide +kernel
  · decide +kernel
  · rw [hevents]
    decide +kernel

end Browser

end Walkthrough
