import Walkthrough.Browser.Call

namespace Walkthrough

/-- A session and those who have subscribed to it; they are told of what a call makes it report, one
event after the other, before the call returns. -/
structure Audience (σ : Type) where
  host : σ
  /-- What each listener has been told, the first to subscribe first. -/
  heard : List (List Event)
  deriving Repr, DecidableEq

namespace Audience

def around (host : σ) : Audience σ :=
  ⟨host, []⟩

def subscribe (a : Audience σ) : Audience σ :=
  { a with heard := a.heard ++ [[]] }

def tell (a : Audience σ) (e : Event) : Audience σ :=
  { a with heard := a.heard.map (· ++ [e]) }

variable [Host σ]

def respond (a : Audience σ) (c : Call) : Except SessionError c.Answer × Audience σ :=
  let (answer, host) := Host.respond c a.host
  let news := (Host.events host).drop (Host.events a.host).length
  (answer, news.foldl tell { a with host := host })

instance : Host (Audience σ) where
  respond c a := a.respond c
  events a := Host.events a.host
  browserName := Host.browserName σ

end Audience

end Walkthrough
