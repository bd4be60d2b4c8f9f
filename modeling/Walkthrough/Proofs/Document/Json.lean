import Walkthrough.Document.Scalar

namespace Walkthrough.Document

namespace Node

mutual

/-- Whether a document is a JSON value: all scalars have a definite type, numbers are in range, and
no object has a key twice. -/
def isJson : Node → Bool
  | .null | .bool _ | .text _ => true
  | .whole n => wholeInRange n
  | .float x => x.isFinite
  | .plain _ | .sequence _ => false
  | .list items => areJson items
  | .table fields => decide (fields.map Prod.fst).Nodup && haveJson fields

def areJson : List Node → Bool
  | [] => true
  | n :: rest => isJson n && areJson rest

def haveJson : List (String × Node) → Bool
  | [] => true
  | (_, n) :: rest => isJson n && haveJson rest

end

end Node

theorem wholeInRange_of_le {n : Nat} (h : n ≤ Text.maxU64) : wholeInRange n = true := by
  have hmax : (Text.maxU64 : Int) < (Nat.pow 2 64 : Int) := by decide
  have hle : (n : Int) ≤ Text.maxU64 := Int.ofNat_le.mpr h
  have hmin : -(Nat.pow 2 63 : Int) ≤ 0 := by decide
  simp only [wholeInRange, Bool.and_eq_true, decide_eq_true_eq]
  omega

theorem lookup_eq_none_of_not_mem {β : Type} {key : String} {l : List (String × β)}
    (h : key ∉ l.map Prod.fst) : l.lookup key = none := by
  refine List.lookup_eq_none_iff.mpr fun e he => ?_
  have hne : key ≠ e.1 := fun heq => h (heq ▸ List.mem_map_of_mem he)
  simpa using hne

mutual

theorem resolve_of_isJson : ∀ {n : Node}, n.isJson = true → resolve n = some n
  | .null, _ | .bool _, _ | .whole _, _ | .float _, _ | .text _, _ => rfl
  | .list items, h => by
    rw [resolve, resolveItems_of_areJson h]
    rfl
  | .table fields, h => by
    obtain ⟨hkeys, h⟩ := Bool.and_eq_true_iff.mp h
    rw [resolve, resolveFields_of_haveJson (of_decide_eq_true hkeys) h]
    rfl

theorem resolveItems_of_areJson : ∀ {items : List Node}, Node.areJson items = true →
    resolveItems items = some items
  | [], _ => rfl
  | n :: rest, h => by
    obtain ⟨hn, hrest⟩ := Bool.and_eq_true_iff.mp h
    rw [resolveItems, resolve_of_isJson hn, resolveItems_of_areJson hrest]
    rfl

theorem resolveFields_of_haveJson : ∀ {fields : List (String × Node)},
    (fields.map Prod.fst).Nodup → Node.haveJson fields = true → resolveFields fields = some fields
  | [], _, _ => rfl
  | (key, n) :: rest, hkeys, h => by
    obtain ⟨hn, hrest⟩ := Bool.and_eq_true_iff.mp h
    obtain ⟨hkey, hkeys⟩ := List.nodup_cons.mp hkeys
    rw [resolveFields, resolve_of_isJson hn, resolveFields_of_haveJson hkeys hrest]
    simp [lookup_eq_none_of_not_mem hkey]

end

end Walkthrough.Document
