/-!
# Sibling order

The position of a node among the siblings that are rendered with it. Texts have no name: they count
for positions, but neither end nor begin a run of siblings with one name.
-/

namespace Mdx

/-- The position of a rendered node among its siblings. -/
structure Order where
  index : Nat
  firstChild : Bool
  lastChild : Bool
  /-- The node has a name, and the nearest named sibling before it has another. -/
  firstOfType : Bool
  /-- The name of the nearest named sibling before it. -/
  prevSiblingName : String
  deriving DecidableEq, Repr

namespace Order

/-- The name that stands before the first named sibling. -/
def rootName : String := "root"

/-- The position of a node without siblings. -/
def alone : Order := ⟨0, true, true, true, rootName⟩

/-- The positions of siblings, of which the first has the given index and follows `previous`. -/
def count (index : Nat) (previous : String) : List (Option String) → List Order
  | [] => []
  | name :: rest =>
    { index := index
      firstChild := index == 0
      lastChild := rest.isEmpty
      firstOfType := name.any (· != previous)
      prevSiblingName := previous } :: count (index + 1) (name.getD previous) rest

/-- The positions of all siblings, given by their names. -/
def ofNames (names : List (Option String)) : List Order :=
  count 0 rootName names

end Order

end Mdx
