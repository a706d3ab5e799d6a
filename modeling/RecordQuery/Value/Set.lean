import RecordQuery.Value.Digest
import RecordQuery.Value.Equality

/-!
# Sets of values

A set holds one member of each class of SameValueZero-equal values. Every member is kept with its
digest, and only members with the digest of a value are compared with it.
-/

namespace RecordQuery

/-- A set of values under SameValueZero equality. -/
structure ValueSet where
  /-- The members with their digests. -/
  entries : List (UInt64 × Value)

namespace ValueSet

/-- The set without members. -/
def empty : ValueSet := ⟨[]⟩

/-- The set has a member equal to the value. -/
def contains (s : ValueSet) (v : Value) : Bool :=
  let digest := v.digest
  s.entries.any fun (d, member) => d == digest && member == v

/-- The set with the value as a member, unless an equal one is there. -/
def insert (s : ValueSet) (v : Value) : ValueSet :=
  if s.contains v then s else ⟨(v.digest, v) :: s.entries⟩

/-- The set of the values in a list. -/
def ofList (values : List Value) : ValueSet := values.foldl insert empty

/-- The number of members. -/
def size (s : ValueSet) : Nat := s.entries.length

/-- The members. -/
def members (s : ValueSet) : List Value := s.entries.map Prod.snd

end ValueSet

end RecordQuery
