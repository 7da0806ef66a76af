import ImageSwap.Decimal.Binary64

/-!
# JSON values

A value is what a document carries, not how it is spelled. The members of an object are kept in a
list; `sorted` puts them in the order of their names at every depth, which is how documents are
emitted.
-/

namespace ImageSwap

/-- A JSON value. A number is kept exactly when it is whole and small, and as the double-precision
value that it is read as otherwise. -/
inductive Json where
  | null
  | bool (b : Bool)
  | int (n : Int)
  | real (value : Decimal.Binary64)
  | str (s : String)
  | arr (elements : List Json)
  | obj (members : List (String × Json))
  deriving Repr, Inhabited

namespace Json

/-- The value of an optional text, null when it is absent. -/
def str? (s : Option String) : Json := s.elim null str

/-- The members in the order of their names; of members with one name in order. -/
def sortMembers (members : List (String × Json)) : List (String × Json) :=
  members.mergeSort fun a b => a.1 ≤ b.1

mutual
/-- The same value with the members of every object in the order of their names. -/
def sorted : Json → Json
  | arr elements => arr (sortedElements elements)
  | obj members => obj (sortMembers (sortedMembers members))
  | v => v

/-- Every element with its members in order. -/
def sortedElements : List Json → List Json
  | [] => []
  | v :: vs => v.sorted :: sortedElements vs

/-- Every member's value with its members in order. -/
def sortedMembers : List (String × Json) → List (String × Json)
  | [] => []
  | (name, v) :: rest => (name, v.sorted) :: sortedMembers rest
end

end Json

end ImageSwap
