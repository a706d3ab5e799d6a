import RecordQuery.Error

/-!
# Specifications

Filters and rankings are specified by values. What the two have in common is the bound on how
deeply a specification may be nested.
-/

namespace RecordQuery.Specification

/-- The bound on the nesting of a specification that holds if no other is given. -/
def defaultMaxDepth : Nat := 256

/-- What is made of a part of a specification at some depth, if the bound allows that depth. -/
@[macro_inline] def within {α : Type} (limit depth : Nat) (made : Except CompileError α) :
    Except CompileError α :=
  if limit < depth then .error (.depthLimitExceeded limit) else made

end RecordQuery.Specification
