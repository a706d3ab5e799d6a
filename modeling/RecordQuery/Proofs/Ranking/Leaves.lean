import RecordQuery.Proofs.Number.Sign
import RecordQuery.Proofs.Query.OfSpecification
import RecordQuery.Proofs.Ranking.Congruence
import RecordQuery.Proofs.Value.Part

/-!
# The leaves of a ranking

However a ranking is nested, it compares by a list of criteria, each on the parts that a path leads
to, and the first that decides is the answer (`compare_eq_compareLeaves`). The list is that of the
leaves of the specification in the order in which they stand there (`leavesAt_ofSpecification`). A
ranking with a single leaf (`along`) is that leaf alone, so a list of leaves is also a list of rankings.
-/

namespace RecordQuery

/-! ## Specifications -/

namespace Specification

mutual
/-- The leaves of a part of a sort specification, with the paths that they stand at. An object or
array with nothing in it is a leaf itself. -/
def leavesAt (path : Path) : Value → List (Path × Value)
  | .object (field :: rest) => fieldLeaves path (field :: rest)
  | .array (item :: rest) => itemLeaves path 0 (item :: rest)
  | leaf => [(path, leaf)]

/-- The leaves of fields. -/
def fieldLeaves (path : Path) : List (String × Value) → List (Path × Value)
  | [] => []
  | (key, v) :: rest => leavesAt (path ++ [key]) v ++ fieldLeaves path rest

/-- The leaves of items, keyed by index, from an index on. -/
def itemLeaves (path : Path) : Nat → List Value → List (Path × Value)
  | _, [] => []
  | i, v :: rest => leavesAt (path ++ [Text.decimal i]) v ++ itemLeaves path (i + 1) rest
end

/-- The leaves of a sort specification. Without a specification an undefined value stands at the
root. -/
def leaves (spec : Option Value) : List (Path × Value) := leavesAt [] (spec.getD .undefined)

end Specification

/-! ## Rankings -/

/-- The order of two values under a criterion: the sign of their score. -/
def Criterion.compare (criterion : Criterion) (x y : Value) : Ordering := (criterion.score x y).sign

namespace Ranking

mutual
/-- The criteria of a ranking, with the paths that they stand at. Fields that are none tie. -/
def leavesAt (path : Path) : Ranking → List (Path × Criterion)
  | leaf criterion => [(path, criterion)]
  | fields [] => [(path, .neutral)]
  | fields (child :: rest) => childLeaves path (child :: rest)

/-- The criteria of fields. -/
def childLeaves (path : Path) : List (String × Ranking) → List (Path × Criterion)
  | [] => []
  | (key, child) :: rest => child.leavesAt (path ++ [key]) ++ childLeaves path rest
end

/-- Values compare by criteria on their parts, the first that decides deciding. -/
def compareLeaves : List (Path × Criterion) → Value → Value → Ordering
  | [], _, _ => .eq
  | (path, criterion) :: rest, x, y =>
    (criterion.compare (path.partOf x) (path.partOf y)).then (compareLeaves rest x y)

/-- Criteria behind others break their ties. -/
theorem compareLeaves_append (first second : List (Path × Criterion)) (x y : Value) :
    compareLeaves (first ++ second) x y =
      (compareLeaves first x y).then (compareLeaves second x y) := by
  induction first with
  | nil => rfl
  | cons leaf rest ih =>
    obtain ⟨path, criterion⟩ := leaf
    rw [List.cons_append, compareLeaves, ih, compareLeaves, Ordering.then_assoc]

/-- One criterion compares as it does. -/
theorem compareLeaves_singleton (path : Path) (criterion : Criterion) (x y : Value) :
    compareLeaves [(path, criterion)] x y =
      criterion.compare (path.partOf x) (path.partOf y) := by
  rw [compareLeaves, compareLeaves, Ordering.then_eq]

/-- The order of two values is the sign of their score. -/
theorem compare_eq_sign (ranking : Ranking) (x y : Value) :
    ranking.compare x y = (ranking.score x y).sign := rfl

/-- Fields after the first break its ties. -/
theorem sign_scoreFields_cons (key : String) (child : Ranking) (rest : List (String × Ranking))
    (x y : Value) : (scoreFields ((key, child) :: rest) x y).sign =
      (child.compare (x.get key) (y.get key)).then (scoreFields rest x y).sign := by
  have hzero := Number.equals_zero_iff (child.rank?_score (x.get key) (y.get key))
  rw [← compare_eq_sign] at hzero
  rw [scoreFields]
  split
  · rename_i hequals
    rw [hzero.1 hequals]
    rfl
  · rename_i hequals
    rw [← compare_eq_sign]
    cases hcompare : child.compare (x.get key) (y.get key) with
    | lt | gt => rfl
    | eq => exact absurd (hzero.2 hcompare) hequals

mutual
/-- A ranking of the parts at a path compares by its criteria. -/
theorem compare_partOf (path : Path) (x y : Value) : ∀ ranking : Ranking,
    ranking.compare (path.partOf x) (path.partOf y) = compareLeaves (ranking.leavesAt path) x y
  | leaf criterion => (compareLeaves_singleton path criterion x y).symm
  | fields [] => (compareLeaves_singleton path .neutral x y).symm
  | fields (child :: rest) => sign_scoreFields_partOf path x y (child :: rest)

/-- Fields of the parts at a path compare by their criteria. -/
theorem sign_scoreFields_partOf (path : Path) (x y : Value) : ∀ children : List (String × Ranking),
    (scoreFields children (path.partOf x) (path.partOf y)).sign =
      compareLeaves (childLeaves path children) x y
  | [] => rfl
  | (key, child) :: rest => by
    have hchild := compare_partOf (path ++ [key]) x y child
    rw [Path.partOf_append_singleton, Path.partOf_append_singleton] at hchild
    rw [sign_scoreFields_cons, hchild, sign_scoreFields_partOf path x y rest, childLeaves,
      compareLeaves_append]
end

/-- A ranking compares by its criteria. -/
theorem compare_eq_compareLeaves (ranking : Ranking) (x y : Value) :
    ranking.compare x y = compareLeaves (ranking.leavesAt []) x y :=
  compare_partOf [] x y ranking

/-! ## From specification to ranking -/

/-- The criterion of a leaf of a specification, with its path. -/
def criterionOf (leaf : Path × Value) : Path × Criterion := (leaf.1, Criterion.ofLeaf leaf.2)

/-- A ranking by some fields has their criteria. -/
theorem leavesAt_fields {children : List (String × Ranking)} (h : children ≠ []) (path : Path) :
    (fields children).leavesAt path = childLeaves path children := by
  obtain ⟨child, rest, rfl⟩ := List.exists_cons_of_ne_nil h
  rfl

section
variable {limit depth : Nat}

/-- The rankings of fields are the ranking of the first and the rankings of the others. -/
theorem ofFields_cons_eq_ok {key : String} {v : Value} {rest : List (String × Value)}
    {children : List (String × Ranking)} :
    ofFields limit depth ((key, v) :: rest) = .ok children ↔
      ∃ child more, ofPart limit depth v = .ok child ∧ ofFields limit depth rest = .ok more ∧
        children = (key, child) :: more := by
  simp only [ofFields, bind_eq_ok]
  constructor
  · rintro ⟨child, hchild, more, hmore, h⟩
    exact ⟨child, more, hchild, hmore, (Except.ok.inj h).symm⟩
  · rintro ⟨child, more, hchild, hmore, rfl⟩
    exact ⟨child, hchild, more, hmore, rfl⟩

/-- The rankings of items are the ranking of the first and the rankings of the others. -/
theorem ofItems_cons_eq_ok {i : Nat} {v : Value} {rest : List Value}
    {children : List (String × Ranking)} :
    ofItems limit depth i (v :: rest) = .ok children ↔
      ∃ child more, ofPart limit depth v = .ok child ∧
        ofItems limit depth (i + 1) rest = .ok more ∧
        children = (Text.decimal i, child) :: more := by
  simp only [ofItems, bind_eq_ok]
  constructor
  · rintro ⟨child, hchild, more, hmore, h⟩
    exact ⟨child, more, hchild, hmore, (Except.ok.inj h).symm⟩
  · rintro ⟨child, more, hchild, hmore, rfl⟩
    exact ⟨child, hchild, more, hmore, rfl⟩

mutual
/-- The criteria of a ranking are those of the leaves of its specification. -/
theorem leavesAt_ofPart {depth : Nat} (path : Path) : ∀ {v : Value} {ranking : Ranking},
    ofPart limit depth v = .ok ranking →
      ranking.leavesAt path = (Specification.leavesAt path v).map criterionOf
  | .object [], _, h | .array [], _, h | .undefined, _, h | .null, _, h | .bool _, _, h
  | .number _, _, h | .bigint _, _, h | .string _, _, h | .regex _, _, h => by
    cases Specification.within_eq_ok h
    rfl
  | .object ((key, v) :: rest), _, h => by
    obtain ⟨children, hchildren, rfl⟩ := map_eq_ok.1 (Specification.within_eq_ok h)
    obtain ⟨child, more, _, _, hcons⟩ := ofFields_cons_eq_ok.1 hchildren
    rw [leavesAt_fields (hcons ▸ List.cons_ne_nil _ _), childLeaves_ofFields path hchildren]
    rfl
  | .array (v :: rest), _, h => by
    obtain ⟨children, hchildren, rfl⟩ := map_eq_ok.1 (Specification.within_eq_ok h)
    obtain ⟨child, more, _, _, hcons⟩ := ofItems_cons_eq_ok.1 hchildren
    rw [leavesAt_fields (hcons ▸ List.cons_ne_nil _ _), childLeaves_ofItems path hchildren]
    rfl

/-- The criteria of fields are those of the leaves of their specifications. -/
theorem childLeaves_ofFields {depth : Nat} (path : Path) :
    ∀ {parts : List (String × Value)} {children : List (String × Ranking)},
      ofFields limit depth parts = .ok children →
        childLeaves path children = (Specification.fieldLeaves path parts).map criterionOf
  | [], _, h => by
    cases h
    rfl
  | (key, v) :: rest, _, h => by
    obtain ⟨child, more, hchild, hmore, rfl⟩ := ofFields_cons_eq_ok.1 h
    rw [childLeaves, Specification.fieldLeaves, List.map_append, leavesAt_ofPart _ hchild,
      childLeaves_ofFields path hmore]

/-- The criteria of items are those of the leaves of their specifications. -/
theorem childLeaves_ofItems {depth : Nat} (path : Path) :
    ∀ {i : Nat} {items : List Value} {children : List (String × Ranking)},
      ofItems limit depth i items = .ok children →
        childLeaves path children = (Specification.itemLeaves path i items).map criterionOf
  | _, [], _, h => by
    cases h
    rfl
  | i, v :: rest, _, h => by
    obtain ⟨child, more, hchild, hmore, rfl⟩ := ofItems_cons_eq_ok.1 h
    rw [childLeaves, Specification.itemLeaves, List.map_append, leavesAt_ofPart _ hchild,
      childLeaves_ofItems path hmore]
end

/-- The criteria that a specification asks for. -/
def specifiedLeaves (spec : Option Value) : List (Path × Criterion) :=
  (Specification.leaves spec).map criterionOf

/-- The criteria of a specified ranking are those that its specification asks for. Without one, a
criterion at the root lets all records tie. -/
theorem leavesAt_ofSpecification {spec : Option Value} {ranking : Ranking}
    (h : ofSpecification limit spec = .ok ranking) :
    ranking.leavesAt [] = specifiedLeaves spec := by
  cases spec with
  | none =>
    cases h
    rfl
  | some v => exact leavesAt_ofPart [] h

/-- A specified ranking compares by the criteria that its specification asks for. -/
theorem compare_ofSpecification {spec : Option Value} {ranking : Ranking}
    (h : ofSpecification limit spec = .ok ranking) (x y : Value) :
    ranking.compare x y = compareLeaves (specifiedLeaves spec) x y := by
  rw [compare_eq_compareLeaves, leavesAt_ofSpecification h]

end

/-! ## Single leaves -/

/-- The ranking by one criterion on the parts that a path leads to. -/
def along (path : Path) (criterion : Criterion) : Ranking :=
  path.foldr (fun key ranking => fields [(key, ranking)]) (leaf criterion)

/-- A ranking by one criterion has that criterion. -/
theorem leavesAt_along (path : Path) (criterion : Criterion) (base : Path) :
    (along path criterion).leavesAt base = [(base ++ path, criterion)] := by
  induction path generalizing base with
  | nil => simp [along, leavesAt]
  | cons key path ih =>
    rw [along, List.foldr_cons, ← along, leavesAt, childLeaves, ih, childLeaves]
    simp

/-- A ranking by one criterion compares as the criterion does. -/
theorem compare_along (path : Path) (criterion : Criterion) (x y : Value) :
    (along path criterion).compare x y =
      criterion.compare (path.partOf x) (path.partOf y) := by
  rw [compare_eq_compareLeaves, leavesAt_along, List.nil_append, compareLeaves_singleton]

end Ranking

end RecordQuery
