import Walkthrough.Document.Node
import Walkthrough.Page.Query

namespace Walkthrough

/-- Refers to an element of the page that was current when it was found. -/
structure Handle where
  id : Nat
  tag : String
  deriving Repr, DecidableEq

inductive HttpMethod
  | get
  | post
  deriving Repr, DecidableEq

def HttpMethod.text : HttpMethod → String
  | get => "GET"
  | post => "POST"

/-- What came of a navigation; a browser need not have seen a status. -/
structure Visit where
  url : String
  status : Option Nat
  deriving Repr, DecidableEq

structure ImageState where
  source : String
  complete : Bool
  naturalWidth : Nat
  deriving Repr, DecidableEq

def ImageState.isBroken (i : ImageState) : Bool :=
  !i.complete || i.naturalWidth == 0

inductive Call
  | navigate (url : String)
  | currentUrl
  | goBack
  | query (q : Query)
  | click (target : Handle)
  | fill (target : Handle) (value : String)
  | press (target : Handle) (key : String)
  | text (target : Handle)
  | attributeOf (target : Handle) (name : String)
  | inputValue (target : Handle)
  | screenshot (path : String) (fullPage : Bool)
  /-- A request outside the page. -/
  | request (method : HttpMethod) (url : String) (body : Option Node)
  | loadTiming
  | images
  | viewport

namespace Call

abbrev Answer : Call → Type
  | navigate _ => Visit
  | currentUrl => String
  | goBack => Unit
  | query _ => List Handle
  | click _ => Unit
  | fill _ _ => Unit
  | press _ _ => Unit
  | text _ => String
  | attributeOf _ _ => Option String
  | inputValue _ => String
  | screenshot _ _ => Unit
  | request _ _ _ => Nat
  | loadTiming => LoadTiming
  | images => List ImageState
  | viewport => Option (Nat × Nat)

inductive Kind
  | navigate
  | currentUrl
  | goBack
  | query
  | click
  | fill
  | press
  | text
  | attributeOf
  | inputValue
  | screenshot
  | request
  | loadTiming
  | images
  | viewport
  deriving Repr, DecidableEq

def kind : Call → Kind
  | navigate _ => .navigate
  | currentUrl => .currentUrl
  | goBack => .goBack
  | query _ => .query
  | click _ => .click
  | fill _ _ => .fill
  | press _ _ => .press
  | text _ => .text
  | attributeOf _ _ => .attributeOf
  | inputValue _ => .inputValue
  | screenshot _ _ => .screenshot
  | request _ _ _ => .request
  | loadTiming => .loadTiming
  | images => .images
  | viewport => .viewport

end Call

/-- A session: answers calls, and keeps what loading pages has reported. -/
class Host (σ : Type) where
  respond : (c : Call) → σ → Except SessionError c.Answer × σ
  events : σ → List Event
  browserName : String

end Walkthrough
