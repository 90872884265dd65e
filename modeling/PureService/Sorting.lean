/-!
# Sorting

Lists are sorted by insertion. The order is given by a test that holds if the first element may
stand before the second one; elements that may stand in either order keep theirs.
-/

namespace PureService.Sorting

/-- Put an element before the first one of a sorted list that may stand after it. -/
def insert {α : Type} (precedes : α → α → Bool) (element : α) : List α → List α
  | [] => [element]
  | first :: rest =>
    if precedes element first then element :: first :: rest
    else first :: insert precedes element rest

/-- The elements of a list in order. -/
def sort {α : Type} (precedes : α → α → Bool) : List α → List α
  | [] => []
  | first :: rest => insert precedes first (sort precedes rest)

end PureService.Sorting
