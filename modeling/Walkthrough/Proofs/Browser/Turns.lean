import Mathlib.Data.List.Basic
import Walkthrough.Browser.Site

namespace Walkthrough

/-- Whether doing this may load a page. -/
def Interaction.moves : Interaction → Bool
  | navigate _ | goBack | click _ => true
  | _ => false

theorem Element.setAttribute_frame (e : Element) (name value : String) :
    (e.setAttribute name value).tag = e.tag ∧ (e.setAttribute name value).text = e.text ∧
      (e.setAttribute name value).parent = e.parent := by
  unfold setAttribute
  dsimp only
  split <;> exact ⟨rfl, rfl, rfl⟩

namespace Browser

section Live

variable {b : Browser} {h : Handle}

theorem element?_of_isLive (hlive : b.isLive h) :
    ∃ e, b.page.element? h.id = some e ∧ e.tag = h.tag := by
  unfold isLive Page.hasTag at hlive
  obtain ⟨e, he, htag⟩ := (Option.any_eq_true _ _).mp hlive
  exact ⟨e, he, beq_iff_eq.mp htag⟩

theorem withElement_of_isLive (hlive : b.isLive h) (act : α × Browser) :
    b.withElement h act = (.ok act.1, act.2) := by
  unfold withElement
  rw [if_pos hlive]

theorem isLive_setValue (hlive : b.isLive h) (i : Nat) (value : String) :
    (b.setValue i value).isLive h := by
  obtain ⟨e, he, htag⟩ := element?_of_isLive hlive
  have hsame : (e.setAttribute "value" value).tag = e.tag := (e.setAttribute_frame _ _).1
  unfold Page.element? at he
  unfold isLive Page.hasTag Page.element? setValue
  dsimp only
  rw [List.getElem?_modify, he]
  by_cases hi : i = h.id <;> simp [hi, hsame, htag]

theorem linkTarget?_of_tag (hlive : b.isLive h) (htag : h.tag ≠ "a") : b.linkTarget? h.id = none := by
  obtain ⟨e, he, hsame⟩ := element?_of_isLive hlive
  have hother : b.page.hasTag h.id "a" = false := by
    unfold Page.hasTag
    simpa [he, hsame] using htag
  unfold linkTarget?
  rw [hother]
  rfl

end Live

theorem respond_navigate (b : Browser) (url : String) :
    (∃ e, e.kind = .connection ∧ b.respond (.navigate url) = (.error e, b)) ∨
      ∃ key, b.respond (.navigate url) =
        (.ok ⟨key, some (b.site.route key).status⟩, (b.enter (.navigate key)).visit key) := by
  unfold respond
  dsimp only
  cases Url.parse url with
  | error e => exact .inl ⟨_, rfl, rfl⟩
  | ok u => exact .inr ⟨u.toText, rfl⟩

theorem query_leaves (b : Browser) (q : Query) : (b.respond (.query q)).2 = b := by
  unfold respond
  dsimp only
  split <;> rfl

theorem respond_goBack_of_nil {b : Browser} (h : b.history = []) :
    b.respond .goBack = (.ok (), b.enter .goBack) := by
  unfold respond enter
  simp only [h]

theorem respond_goBack_of_cons {b : Browser} {last : String} {earlier : List String}
    (h : b.history = last :: earlier) :
    b.respond .goBack =
      (.ok (), { b.enter .goBack with history := earlier }.load (Url.normalize last)) := by
  unfold respond enter
  simp only [h]

inductive Turns (b : Browser) : Call → Browser → Prop
  | idle (c : Call) : Turns b c b
  | act (c : Call) (i : Interaction) (hi : i.moves = false) : Turns b c (b.enter i)
  | fill (h : Handle) (value : String) (hlive : b.isLive h) :
    Turns b (.fill h value) ((b.setValue h.id value).enter (.fill h.id value))
  | navigate (url key : String) :
    Turns b (.navigate url) ((b.enter (.navigate key)).visit key)
  | click {h : Handle} (hlive : b.isLive h) (hlink : b.linkTarget? h.id = none) :
    Turns b (.click h) (b.enter (.click h.id))
  | follow {h : Handle} {target : String} (hlive : b.isLive h)
    (hlink : b.linkTarget? h.id = some target) :
    Turns b (.click h) ((b.enter (.click h.id)).visit (Url.normalize target))
  | bottom (hhistory : b.history = []) : Turns b .goBack (b.enter .goBack)
  | back {last : String} {earlier : List String} (hhistory : b.history = last :: earlier) :
    Turns b .goBack ({ b.enter .goBack with history := earlier }.load (Url.normalize last))

theorem turns_withElement {b b' : Browser} {h : Handle} {c : Call} (a : α)
    (hb : b.isLive h → b.Turns c b') : b.Turns c (b.withElement h (a, b')).2 := by
  unfold withElement
  split
  · rename_i hlive
    exact hb hlive
  · exact .idle c

theorem turns_respond (b : Browser) (c : Call) : b.Turns c (b.respond c).2 := by
  cases c with
  | navigate url =>
    obtain ⟨e, -, hnav⟩ | ⟨key, hnav⟩ := b.respond_navigate url
    · rw [hnav]
      exact .idle _
    · rw [hnav]
      exact .navigate url key
  | goBack =>
    cases hhistory : b.history with
    | nil =>
      rw [respond_goBack_of_nil hhistory]
      exact .bottom hhistory
    | cons last earlier =>
      rw [respond_goBack_of_cons hhistory]
      exact .back hhistory
  | query q =>
    rw [query_leaves]
    exact .idle _
  | click h =>
    refine turns_withElement () fun hlive => ?_
    cases hlink : b.linkTarget? h.id with
    | none => exact .click hlive hlink
    | some target => exact .follow hlive hlink
  | fill h value => exact turns_withElement () fun hlive => .fill h value hlive
  | press h key => exact turns_withElement () fun _ => .act _ _ rfl
  | text | attributeOf | inputValue => exact turns_withElement _ fun _ => .idle _
  | screenshot | request => exact .act _ _ rfl
  | currentUrl | loadTiming | images | viewport => exact .idle _

end Browser

end Walkthrough
