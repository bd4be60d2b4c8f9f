import Walkthrough.Phrasing.Rephrasing

namespace Walkthrough

namespace Phrasing

/-- A template is fixed words, or words around a slot for the first group. -/
inductive Form
  | fixed (words : List Char)
  | framed (before behind : List Char)
  deriving DecidableEq

def form? : List Piece → Option Form
  | [.literal words] => some (.fixed words)
  | [.literal before, .slot ['1']] => some (.framed before [])
  | [.literal before, .slot ['1'], .literal behind] => some (.framed before behind)
  | _ => none

def fill (template : List Char) (group? : Nat → Option (List Char)) : List Char :=
  (piecesFrom template.length template).flatMap (Piece.fill group?)

theorem toList_expand (template : String) (group? : Nat → Option (List Char)) :
    (expand template group?).toList = fill template.toList group? := by
  unfold expand
  rw [String.toList_ofList]
  rfl

theorem fill_of_fixed {template words : List Char}
    (h : form? (piecesFrom template.length template) = some (.fixed words))
    (group? : Nat → Option (List Char)) : fill template group? = words := by
  unfold fill
  unfold form? at h
  split at h <;> simp_all [Piece.fill]

theorem fill_of_framed {template before behind : List Char}
    (h : form? (piecesFrom template.length template) = some (.framed before behind))
    {group? : Nat → Option (List Char)} {u : List Char} (hu : group? 1 = some u) :
    fill template group? = before ++ (u ++ behind) := by
  have hslot : Piece.fill group? (.slot ['1']) = u := by
    have hone : Text.natOfChars? Text.maxU64 ['1'] = some 1 := by decide
    simp only [Piece.fill, hone, Option.bind_some, hu, Option.getD_some]
  unfold fill
  unfold form? at h
  split at h <;> simp_all [Piece.fill]

def commandWords (template : List Char) : List Char :=
  Text.dropBlanksEnd (template.takeWhile fun c => c != '"' && c != '/' && c != '$')

end Phrasing

def Rephrasing.commandName (r : Rephrasing) : String :=
  String.ofList (Phrasing.commandWords r.template.toList)

end Walkthrough
