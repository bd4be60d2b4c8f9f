import Walkthrough.Proofs.Walk.Procedure
import Walkthrough.Walk.Script

namespace Walkthrough

namespace Search

def settle : List Strategy → Procedure (Option Found)
  | [] => return none
  | s :: rest => do
    match ← s.look with
    | .ok (h :: more) => return some ⟨h, s.tier, s.describe, more.length + 1⟩
    | _ => settle rest

theorem resolveWith_eq (s : Search) (strategies : List Strategy) :
    s.resolveWith strategies = (settle strategies).bind fun found => .done (.ok found) := by
  induction strategies with
  | nil => rfl
  | cons strategy rest ih =>
    change strategy.look.bind _ = (strategy.look.bind _).bind _
    rw [Procedure.bind_assoc]
    congr 1
    funext answer
    obtain e | _ | ⟨h, more⟩ := answer
    · exact ih
    · exact ih
    · rfl

theorem resolve_eq (s : Search) :
    s.resolve = (settle s.strategies).bind fun found => .done (.ok found) :=
  s.resolveWith_eq s.strategies

theorem require_eq (s : Search) :
    s.require = (settle s.strategies).bind fun
      | some found => .done (.ok found)
      | none => .done (.error (.notFound s.exhausted)) := by
  change s.resolve.bind _ = _
  rw [resolve_eq, Procedure.bind_assoc]
  congr 1
  funext found
  cases found <;> rfl

end Search

namespace Script

theorem locate_eq (s : Search) : locate s = lift (Search.settle s.strategies) := by
  funext v
  change ((s.resolve.bind _).bind _) = (Search.settle s.strategies).bind _
  rw [Search.resolve_eq, Procedure.bind_assoc, Procedure.bind_assoc]
  rfl

/-- A step that requires an element fails without one, and only for that. -/
theorem require_eq (s : Search) :
    require s = locate s >>= fun
      | some found => pure found
      | none => throw (.elementMissing s.exhausted) := by
  rw [locate_eq]
  funext v
  change ((s.require.bind _).bind _) = ((Search.settle s.strategies).bind _).bind _
  rw [Search.require_eq, Procedure.bind_assoc, Procedure.bind_assoc, Procedure.bind_assoc]
  congr 1
  funext found
  cases found <;> rfl

end Script

end Walkthrough
