import RecordQuery.Path
import RecordQuery.Proofs.Value.Congruence
import RecordQuery.Value.Access

/-!
# Parts of values

A path leads from a value to one of its parts by one access after the other; what is not there is
undefined.
-/

namespace RecordQuery.Path

/-- The part of a value that a path leads to. -/
def partOf (path : Path) (root : Value) : Value := path.foldl Value.get root

/-- One more key leads to the part under it. -/
theorem partOf_append_singleton (path : Path) (key : String) (root : Value) :
    partOf (path ++ [key]) root = (path.partOf root).get key := by
  rw [partOf, List.foldl_append, List.foldl_cons, List.foldl_nil, ← partOf]

/-- The parts of a well-formed value are well formed. -/
theorem wellFormed_partOf {root : Value} (h : root.WellFormed) (path : Path) :
    (path.partOf root).WellFormed := by
  induction path generalizing root with
  | nil => exact h
  | cons key path ih => exact ih (Value.wellFormed_get h key)

end RecordQuery.Path
