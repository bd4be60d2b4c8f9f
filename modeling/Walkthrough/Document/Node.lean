namespace Walkthrough

namespace Document

inductive Node
  | null
  | bool (value : Bool)
  | whole (value : Int)
  | float (value : Float)
  | text (value : String)
  /-- A scalar without quotes, whose type depends on where it is used. -/
  | plain (value : String)
  | list (items : List Node)
  /-- A list that never stands for the fields of a structure. -/
  | sequence (items : List Node)
  | table (fields : List (String × Node))

instance : Inhabited Node :=
  ⟨.null⟩

end Document

export Document (Node)

end Walkthrough
