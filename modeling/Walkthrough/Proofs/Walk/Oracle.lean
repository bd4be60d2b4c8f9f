import Walkthrough.Proofs.Walk.Procedure

namespace Walkthrough

structure Oracle where
  /-- What is answered to a call that comes after `n` others. -/
  answer : (n : Nat) → (c : Call) → Except SessionError c.Answer
  /-- The calls made so far, in order. -/
  asked : List Call

namespace Oracle

def after (o : Oracle) (calls : List Call) : Oracle :=
  { o with asked := o.asked ++ calls }

instance : Host Oracle where
  respond c o := (o.answer o.asked.length c, o.after [c])
  events _ := []
  browserName := "oracle"

def next (o : Oracle) (n : Nat) (c : Call) : Except SessionError c.Answer :=
  o.answer (o.asked.length + n) c

@[simp] theorem after_nil (o : Oracle) : o.after [] = o := by
  simp [after]

@[simp] theorem after_after (o : Oracle) (calls more : List Call) :
    (o.after calls).after more = o.after (calls ++ more) := by
  simp [after]

@[simp] theorem next_after (o : Oracle) (calls : List Call) (n : Nat) (c : Call) :
    (o.after calls).next n c = o.next (calls.length + n) c := by
  simp [next, after, Nat.add_assoc]

theorem respond_eq (o : Oracle) (c : Call) : Host.respond c o = (o.next 0 c, o.after [c]) := rfl

end Oracle

namespace Stage

/-- The stage when further calls have been made and `ms` milliseconds have passed. -/
def later (s : Stage Oracle) (calls : List Call) (ms : Nat) : Stage Oracle :=
  { s with host := s.host.after calls, clock := s.clock + ms }

@[simp] theorem later_nil (s : Stage Oracle) : s.later [] 0 = s := by
  simp [later]

@[simp] theorem later_later (s : Stage Oracle) (calls more : List Call) (ms more' : Nat) :
    (s.later calls ms).later more more' = s.later (calls ++ more) (ms + more') := by
  simp [later, Nat.add_assoc]

@[simp] theorem host_later (s : Stage Oracle) (calls : List Call) (ms : Nat) :
    (s.later calls ms).host = s.host.after calls := rfl

end Stage

namespace Procedure

theorem run_call_later (d : Option Nat) (c : Call)
    (next : Except SessionError c.Answer → Procedure α) (s : Stage Oracle) :
    (call c next).run d s = (next (s.host.next 0 c)).run d (s.later [c] 0) := rfl

theorem run_pause_later (ms : Nat) (next : Procedure α) (s : Stage Oracle) :
    (pause ms next).run none s = next.run none (s.later [] ms) := by
  simp [run, Stage.later]

end Procedure

end Walkthrough
