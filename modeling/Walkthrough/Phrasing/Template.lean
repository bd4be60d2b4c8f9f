import Walkthrough.Text.Alphabetic
import Walkthrough.Text.Numeral

namespace Walkthrough.Phrasing

inductive Piece
  | literal (text : List Char)
  /-- A dollar sign before the longest row of digits; the row is kept as written. -/
  | slot (digits : List Char)
  deriving Repr, DecidableEq

def Piece.consLiteral (c : Char) : List Piece → List Piece
  | .literal text :: rest => .literal (c :: text) :: rest
  | pieces => .literal [c] :: pieces

/-- Splits a template; `fuel` is at least its length. -/
def piecesFrom : Nat → List Char → List Piece
  | 0, _ => []
  | _, [] => []
  | fuel + 1, c :: rest =>
    let digits := rest.takeWhile Text.isDecimalDigit
    if c == '$' && !digits.isEmpty then .slot digits :: piecesFrom fuel (rest.drop digits.length)
    else Piece.consLiteral c (piecesFrom fuel rest)

def pieces (template : String) : List Piece :=
  piecesFrom template.toList.length template.toList

/-- The text for one piece. A slot whose number is no group that took part is empty. -/
def Piece.fill (group? : Nat → Option (List Char)) : Piece → List Char
  | literal text => text
  | slot digits => ((Text.natOfChars? Text.maxU64 digits).bind group?).getD []

def expand (template : String) (group? : Nat → Option (List Char)) : String :=
  String.ofList ((pieces template).flatMap (Piece.fill group?))

end Walkthrough.Phrasing
