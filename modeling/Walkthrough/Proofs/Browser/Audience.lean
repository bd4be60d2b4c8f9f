import Walkthrough.Browser.Audience
import Walkthrough.Proofs.Browser.Effects
import Walkthrough.Proofs.Walk.Procedure

namespace Walkthrough

inductive Deed
  | call (c : Call)
  /-- Waits until a query finds something. -/
  | await (q : Query) (timeout : Nat)
  | subscribe

/-- What a deed makes of a host; it may be one that no one can listen to. -/
def Deed.on [Host σ] (s : σ) : Deed → σ
  | call c => (Host.respond c s).2
  | await q timeout => ((Procedure.awaitElement q timeout).run none ⟨s, 0, none⟩).2.host
  | subscribe => s

def Audience.perform [Host σ] (a : Audience σ) : Deed → Audience σ
  | .subscribe => a.subscribe
  | d => d.on a

def Deed.loads? (b : Browser) : Deed → Option String
  | call c => b.loads? c
  | await _ _ | subscribe => none

def Browser.loaded (b : Browser) : List Deed → List String
  | [] => []
  | d :: rest => (d.loads? b).toList ++ (d.on b).loaded rest

namespace Audience

theorem foldl_tell (news : List Event) (a : Audience σ) :
    news.foldl tell a = { a with heard := a.heard.map (· ++ news) } := by
  induction news generalizing a with
  | nil => simp
  | cons e rest ih =>
    rw [List.foldl_cons, ih]
    simp [tell]

def reportsOf (site : Site) (keys : List String) : List Event :=
  keys.flatMap fun key => Browser.reports key (site.route key)

theorem reportsOf_append (site : Site) (keys more : List String) :
    reportsOf site (keys ++ more) = reportsOf site keys ++ reportsOf site more :=
  List.flatMap_append

theorem respond_eq (a : Audience Browser) (c : Call) :
    a.respond c = ((a.host.respond c).1,
      ⟨(a.host.respond c).2, a.heard.map (· ++ reportsOf a.host.site (a.host.loads? c).toList)⟩) := by
  have hnews : (a.host.respond c).2.events.drop a.host.events.length =
      reportsOf a.host.site (a.host.loads? c).toList := by
    rw [(a.host.follows_respond c).events, List.drop_left]
    rfl
  have hrespond : a.respond c = ((a.host.respond c).1,
      ((a.host.respond c).2.events.drop a.host.events.length).foldl tell
        { a with host := (a.host.respond c).2 }) := rfl
  rw [hrespond, hnews, foldl_tell]

theorem query_leaves (a : Audience Browser) (q : Query) : (a.respond (.query q)).2 = a := by
  have hloads : a.host.loads? (.query q) = none := rfl
  rw [respond_eq, hloads, a.host.query_leaves]
  simp [reportsOf]

/-- On behalf of a deed everyone is told what the page reports that it loads, if any. -/
theorem heard_perform (a : Audience Browser) (d : Deed) :
    (a.perform d).host = d.on a.host ∧ (d.on a.host).site = a.host.site ∧
      ∃ late, (a.perform d).heard =
        a.heard.map (· ++ reportsOf a.host.site (d.loads? a.host).toList) ++ late := by
  cases d with
  | call c =>
    have hperform : a.perform (.call c) = (a.respond c).2 := rfl
    rw [hperform, respond_eq]
    exact ⟨rfl, (a.host.follows_respond c).site, [], (List.append_nil _).symm⟩
  | await q timeout =>
    have hperform : a.perform (.await q timeout) = a :=
      Procedure.host_of_awaitElement (fun a => query_leaves a q) timeout none ⟨a, 0, none⟩
    have hon : (Deed.await q timeout).on a.host = a.host :=
      Procedure.host_of_awaitElement (fun b => b.query_leaves q) timeout none ⟨a.host, 0, none⟩
    rw [hperform, hon]
    exact ⟨rfl, rfl, [], by simp [Deed.loads?, reportsOf]⟩
  | subscribe => exact ⟨rfl, rfl, [[]], by simp [perform, subscribe, Deed.loads?, reportsOf]⟩

theorem heard_of_deeds (deeds : List Deed) (a : Audience Browser) :
    ∃ late, (deeds.foldl perform a).heard =
      a.heard.map (· ++ reportsOf a.host.site (a.host.loaded deeds)) ++ late := by
  induction deeds generalizing a with
  | nil => exact ⟨[], by simp [Browser.loaded, reportsOf]⟩
  | cons d rest ih =>
    obtain ⟨hhost, hsite, newer, hheard⟩ := heard_perform a d
    obtain ⟨late, hrest⟩ := ih (a.perform d)
    rw [hhost, hsite] at hrest
    -- whoever subscribes on the way is told the rest
    refine ⟨newer.map (· ++ reportsOf a.host.site ((d.on a.host).loaded rest)) ++ late, ?_⟩
    rw [List.foldl_cons, hrest, hheard, Browser.loaded, reportsOf_append]
    simp [Function.comp_def]

/-- A listener that subscribes hears, of whatever is done from then on, for each page that is loaded
the response for the document, those for the resources of the page and its console messages, all in
order; so does everyone who has subscribed before. Nothing else is heard: a call that fails loads no
page, and each call shows the page it loads, or stays where it is. -/
theorem listeners_hear_loads (a : Audience Browser) (deeds : List Deed) :
    let told := (a.host.loaded deeds).flatMap fun key =>
      let r := a.host.site.route key
      .response ⟨key, r.status, .document⟩ ::
        (r.page.resources.map .response ++ r.page.console.map .console)
    (∃ late, (deeds.foldl perform a.subscribe).heard = a.heard.map (· ++ told) ++ told :: late) ∧
      ∀ (b : Browser) (c : Call), b.Follows (b.loads? c) (b.respond c).2 ∧
        ∀ e, (b.respond c).1 = .error e → b.loads? c = none := by
  intro told
  refine ⟨?_, fun b c => ⟨b.follows_respond c, fun e => Browser.loads?_of_error⟩⟩
  obtain ⟨late, hheard⟩ := heard_of_deeds deeds a.subscribe
  refine ⟨late, ?_⟩
  rw [hheard]
  have hheld : a.subscribe.heard = a.heard ++ [[]] := rfl
  have htold : reportsOf a.subscribe.host.site (a.subscribe.host.loaded deeds) = told := rfl
  rw [hheld, htold]
  simp

/-- The shop is open when the listener subscribes. It hears of the page that a link leads to, which
is missing, and of the way back; a form that is gone and a request are not heard of. -/
theorem listeners_hear_loads_shop :
    let home : Page := ⟨[⟨"a", [("href", "/gone")], "Gone", none, false⟩], [⟨.error, "no prices"⟩],
      [⟨"https://shop.test/shop.js", 500, .script⟩], ⟨0, 0⟩⟩
    let site := Site.empty.addRoute "https://shop.test" 200 home
    let a := (around (Browser.start site)).perform (.call (.navigate "https://SHOP.test"))
    let gone : Call := .fill ⟨1, "input"⟩ "1"
    let deeds : List Deed := [.call (.click ⟨0, "a"⟩), .call gone, .subscribe, .call .goBack,
      .call (.request .get "https://shop.test" none)]
    (∃ late, (deeds.foldl perform a.subscribe).heard =
      [.response ⟨"https://shop.test/gone", 404, .document⟩,
        .response ⟨"https://shop.test/", 200, .document⟩,
        .response ⟨"https://shop.test/shop.js", 500, .script⟩,
        .console ⟨.error, "no prices"⟩] :: late) ∧
      (a.host.respond gone).1 = .error (Browser.stale ⟨1, "input"⟩) ∧
      a.host.loads? gone = none := by
  intro home site a gone deeds
  have hfails : (a.host.respond gone).1 = .error (Browser.stale ⟨1, "input"⟩) := rfl
  have hnone : a.heard = [] := by
    decide +kernel
  have htold : reportsOf a.host.site (a.host.loaded deeds) =
      [.response ⟨"https://shop.test/gone", 404, .document⟩,
        .response ⟨"https://shop.test/", 200, .document⟩,
        .response ⟨"https://shop.test/shop.js", 500, .script⟩, .console ⟨.error, "no prices"⟩] := by
    decide +kernel
  clear_value a
  obtain ⟨⟨late, hheard⟩, hcalls⟩ := listeners_hear_loads a deeds
  refine ⟨⟨late, ?_⟩, hfails, (hcalls a.host gone).2 _ hfails⟩
  rw [hheard, hnone, ← htold]
  rfl

end Audience

end Walkthrough
