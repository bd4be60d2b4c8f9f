import Walkthrough.Page.Selector.Parser

namespace Walkthrough.Selector

/-- What stands before a value; nothing asks for the attribute alone. -/
def Comparison.sign : Comparison → List Char
  | present => []
  | equal => ['=']
  | containing => ['*', '=']
  | word => ['~', '=']
  | starting => ['^', '=']
  | ending => ['$', '=']

def escapedChar (c : Char) : List Char :=
  if c = '"' ∨ c = '\\' then ['\\', c] else [c]

def quoted (value : List Char) : List Char :=
  '"' :: (value.flatMap escapedChar ++ ['"'])

def AttributeTest.condition (t : AttributeTest) : List Char :=
  if t.comparison = .present then []
  else t.comparison.sign ++ quoted t.value.toList ++ if t.anyCase then [' ', 'i'] else []

def AttributeTest.chars (t : AttributeTest) : List Char :=
  '[' :: (t.name.toList ++ t.condition ++ [']'])

namespace Compound

def tagChars (tag : Option String) : List Char :=
  (tag.map String.toList).getD []

def idChars (id : Option String) : List Char :=
  (id.map fun name => '#' :: name.toList).getD []

def classChars (name : String) : List Char :=
  '.' :: name.toList

/-- An exclusion, given the text of what it excludes. -/
def exclusion (inner : List Char) : List Char :=
  [':', 'n', 'o', 't', '('] ++ inner ++ [')']

mutual

def chars : Compound → List Char
  | tests tag id classes attributes excluded =>
    tagChars tag ++ (idChars id ++ (classes.flatMap classChars ++
      (attributes.flatMap AttributeTest.chars ++ exclusions excluded)))

def exclusions : List Compound → List Char
  | [] => []
  | c :: rest => exclusion c.chars ++ exclusions rest

end

theorem exclusions_eq_flatMap (excluded : List Compound) :
    exclusions excluded = excluded.flatMap fun c => exclusion c.chars := by
  induction excluded with
  | nil => rfl
  | cons c rest ih => rw [exclusions, ih, List.flatMap_cons]

end Compound

def Combinator.chars : Combinator → List Char
  | child => [' ', '>', ' ']
  | descendant => [' ']

def Complex.chars : Complex → List Char
  | one c => c.chars
  | within outer link c => outer.chars ++ (link.chars ++ c.chars)

def print (s : Selector) : String :=
  String.ofList ([',', ' '].intercalate (s.map Complex.chars))

def IsName (s : String) : Prop :=
  s.toList ≠ [] ∧ ∀ c ∈ s.toList, isNameChar c = true

instance : DecidablePred IsName := fun s =>
  decidable_of_iff (s.toList ≠ [] ∧ s.toList.all isNameChar = true)
    (and_congr_right fun _ => List.all_eq_true)

/-- A name that is its own lower case. -/
def IsLowerName (s : String) : Prop :=
  IsName s ∧ Text.lowercase s = s

instance : DecidablePred IsLowerName := fun s =>
  inferInstanceAs (Decidable (IsName s ∧ _))

/-- A test for the attribute alone carries no value and no flag. -/
def AttributeTest.WellFormed (t : AttributeTest) : Prop :=
  IsLowerName t.name ∧ (t.comparison = .present → t.value = "" ∧ t.anyCase = false)

instance : DecidablePred AttributeTest.WellFormed := fun t =>
  inferInstanceAs (Decidable (IsLowerName t.name ∧ _))

inductive Compound.WellFormed : Compound → Prop
  | tests {tag id : Option String} {classes : List String} {attributes : List AttributeTest}
      {excluded : List Compound} (htag : ∀ t ∈ tag, t = "*" ∨ IsLowerName t)
      (hid : ∀ i ∈ id, IsName i) (hclasses : ∀ c ∈ classes, IsName c)
      (hattributes : ∀ t ∈ attributes, t.WellFormed)
      (hexcluded : ∀ c ∈ excluded, Compound.WellFormed c)
      (hsome : (Compound.tests tag id classes attributes excluded).isEmpty = false) :
      WellFormed (.tests tag id classes attributes excluded)

def Complex.WellFormed : Complex → Prop
  | one c => c.WellFormed
  | within outer _ c => outer.WellFormed ∧ c.WellFormed

/-- At least one alternative, each of well-formed compounds. -/
structure WellFormed (s : Selector) : Prop where
  some : s ≠ []
  alternatives : ∀ c ∈ s, c.WellFormed

end Walkthrough.Selector
