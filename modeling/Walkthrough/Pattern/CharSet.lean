import Walkthrough.Text.Blank
import Walkthrough.Text.CaseFold
import Walkthrough.Text.Letter
import Walkthrough.Text.WordChar

namespace Walkthrough.Pattern

/-- Sets of characters by their Unicode properties. -/
inductive Property
  | alphabetic
  | letter
  | capital
  | small
  | number
  deriving Repr, DecidableEq

def Property.holds : Property → Char → Bool
  | alphabetic => Text.isAlphabetic
  | letter => Text.isLetter
  | capital => Text.isCapital
  | small => Text.isSmall
  | number => Text.isNumber

inductive CharSet
  | single (c : Char)
  /-- `c` in any case. -/
  | letter (c : Char)
  | range (first last : Char)
  | digit
  | blank
  | word
  | property (p : Property)
  | all
  | none
  | complement (s : CharSet)
  | union (s t : CharSet)
  | inter (s t : CharSet)
  /-- Every case variant of a member of `s`. -/
  | anyCase (s : CharSet)
  deriving Repr, DecidableEq

namespace CharSet

def accepts : CharSet → Char → Bool
  | single a, c => a == c
  | letter a, c => Text.foldCase a == Text.foldCase c
  | range first last, c => first.toNat ≤ c.toNat && c.toNat ≤ last.toNat
  | digit, c => Text.isDecimalDigit c
  | blank, c => Text.isBlank c
  | word, c => Text.isWordChar c
  | property p, c => p.holds c
  | all, _ => true
  | none, _ => false
  | complement s, c => !s.accepts c
  | union s t, c => s.accepts c || t.accepts c
  | inter s t, c => s.accepts c && t.accepts c
  | anyCase s, c => (Text.caseVariants c).any s.accepts

def ranges (rs : List (Char × Char)) : CharSet :=
  rs.foldr (fun r s => union (range r.1 r.2) s) none

def difference (s t : CharSet) : CharSet :=
  inter s (complement t)

def symmetricDifference (s t : CharSet) : CharSet :=
  union (difference s t) (difference t s)

/-- A rough count of the machine states that one position with this set costs. -/
def weight : CharSet → Nat
  | single _ | letter _ | range _ _ | none => 1
  | digit => 150
  | blank => 20
  | word | property _ => 1500
  | all => 10
  | complement s | anyCase s => s.weight + 10
  | union s t | inter s t => s.weight + t.weight

end CharSet

end Walkthrough.Pattern
