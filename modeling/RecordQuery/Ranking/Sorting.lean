/-!
# Stable sorting

A sort asks one question only: whether an element that stands later compares less than one that
stands earlier. If it does, it goes before it, and otherwise it stays behind it. A short list is
sorted by insertion. A longer one is sorted by merging, which puts it in the one stable order if the
comparison is a total preorder of its elements; what becomes of it otherwise, if anything, is left
open.
-/

namespace RecordQuery.Sorting

variable {α : Type}

/-- An element inserted behind the last one that it does not go before, in a list that is in order
from its last element to its first. -/
def insert (cmp : α → α → Ordering) (x : α) : List α → List α
  | [] => [x]
  | y :: earlier => if cmp x y = .lt then y :: insert cmp x earlier else x :: y :: earlier

/-- The list with its elements inserted one after the other, from the first to the last. -/
def byInsertion (cmp : α → α → Ordering) (xs : List α) : List α :=
  (xs.foldl (fun sorted x => insert cmp x sorted) []).reverse

/-- The length up to which lists are sorted by insertion. -/
def insertionLimit : Nat := 20

/-- The list in the order of a comparison; elements that tie keep their order. -/
def sort (cmp : α → α → Ordering) (xs : List α) : List α :=
  if xs.length ≤ insertionLimit then byInsertion cmp xs
  else xs.mergeSort fun x y => cmp y x != .lt

end RecordQuery.Sorting
