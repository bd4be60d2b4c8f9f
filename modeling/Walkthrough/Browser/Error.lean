namespace Walkthrough

inductive SessionError.Kind
  | navigationTimeout
  | actionTimeout
  | connection
  | targetNotFound
  | invalidSelector
  | http
  | internal
  deriving Repr, DecidableEq

structure SessionError where
  kind : SessionError.Kind
  hint : Option String
  deriving Repr, DecidableEq

namespace SessionError

def Kind.label : Kind → String
  | navigationTimeout => "navigation timed out"
  | actionTimeout => "browser action timed out"
  | connection => "cdp i/o failure"
  | targetNotFound => "target element not found"
  | invalidSelector => "invalid selector"
  | http => "http request failed"
  | internal => "internal error"

def message (e : SessionError) : String :=
  match e.hint with
  | none => e.kind.label
  | some hint => e.kind.label ++ ": " ++ hint

def isTimeout (e : SessionError) : Bool :=
  e.kind == .navigationTimeout || e.kind == .actionTimeout

end SessionError

end Walkthrough
