namespace Walkthrough

inductive ConsoleLevel
  | log
  | info
  | warning
  | error
  | debug
  deriving Repr, DecidableEq

structure ConsoleMessage where
  level : ConsoleLevel
  text : String
  deriving Repr, DecidableEq

inductive ResourceKind
  | document
  | stylesheet
  | script
  | image
  | font
  | fetch
  | other
  deriving Repr, DecidableEq

structure Response where
  url : String
  status : Nat
  kind : ResourceKind
  deriving Repr, DecidableEq

inductive Event
  | console (message : ConsoleMessage)
  | response (response : Response)
  deriving Repr, DecidableEq

namespace Event

def console? : Event → Option ConsoleMessage
  | console m => some m
  | response _ => none

def response? : Event → Option Response
  | console _ => none
  | response r => some r

end Event

end Walkthrough
