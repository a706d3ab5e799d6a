import RecordQuery.Proofs.Ranking.Leaves

/-!
# Rankings by their leaves

However a sort specification is nested, its ranking is the list of its leaves. Two records have the
score of the first leaf that decides between them (`score_equals_firstDecided`), numerically: a leaf
may let them tie with a negative zero. And the source, in which the expressions of every level are
joined, is the sources of the leaves joined once (`expression_eq_intercalate`). Both are the same
walk down the tree, a path growing by a key with every level, so each is one induction over the
ranking.
-/

namespace RecordQuery

/-- The expression for a part is that for the root, with an access for every key behind it. -/
theorem Path.expression_eq_append (root : String) (path : Path) :
    path.expression root = root ++ String.join (path.map access) := by
  induction path generalizing root with
  | nil => simp [expression]
  | cons key path ih =>
    rw [expression, List.foldl_cons, ← expression, ih, List.map_cons, String.join_cons,
      String.append_assoc]

namespace Ranking

/-! ## Scores -/

/-- The first score that is not zero, and zero if there is none. -/
def firstDecided (scores : List Number) : Number :=
  (scores.find? fun score => !score.equals .zero).getD .zero

/-- Scores behind others count if those leave it undecided. -/
theorem firstDecided_append (first second : List Number) :
    firstDecided (first ++ second) =
      if (firstDecided first).equals .zero then firstDecided second else firstDecided first := by
  rw [firstDecided, List.find?_append]
  cases hfirst : first.find? fun score => !score.equals .zero with
  | none => simp [firstDecided, hfirst, Number.zero_equals_zero]
  | some score =>
    have hdecided := List.find?_some hfirst
    simp only [Bool.not_eq_true'] at hdecided
    simp [firstDecided, hfirst, hdecided]

/-- One score that is a number decides as it is. -/
theorem same_firstDecided_singleton (score : Number) :
    score.sameValueZero (firstDecided [score]) = true := by
  rw [firstDecided, List.find?_singleton]
  cases hzero : score.equals .zero with
  | true => exact (Number.equals_iff.1 hzero).1
  | false => exact Number.sameValueZero_refl _

/-- The score of two records by a leaf. -/
def leafScore (x y : Value) (leaf : Path × Criterion) : Number :=
  leaf.2.score (leaf.1.partOf x) (leaf.1.partOf y)

mutual
/-- A ranking of the parts at a path scores what the first of its leaves that decides scores. -/
theorem score_partOf (path : Path) (x y : Value) : ∀ ranking : Ranking,
    (ranking.score (path.partOf x) (path.partOf y)).sameValueZero
      (firstDecided ((ranking.leavesAt path).map (leafScore x y))) = true
  | leaf _ => same_firstDecided_singleton _
  | fields [] => same_firstDecided_singleton .zero
  | fields (child :: rest) => scoreFields_partOf path x y (child :: rest)

/-- Fields of the parts at a path score what the first of their leaves that decides scores. -/
theorem scoreFields_partOf (path : Path) (x y : Value) : ∀ children : List (String × Ranking),
    (scoreFields children (path.partOf x) (path.partOf y)).sameValueZero
      (firstDecided ((childLeaves path children).map (leafScore x y))) = true
  | [] => Number.sameValueZero_refl .zero
  | (key, child) :: rest => by
    have hchild := score_partOf (path ++ [key]) x y child
    have hrest := scoreFields_partOf path x y rest
    rw [Path.partOf_append_singleton, Path.partOf_append_singleton] at hchild
    -- the child leaves it undecided exactly if its leaves do
    rw [scoreFields, childLeaves, List.map_append, firstDecided_append,
      ← Number.equals_zero_congr hchild]
    split
    · exact hrest
    · exact hchild
end

/-- A ranking scores what the first of its leaves that decides scores. -/
theorem score_equals_firstDecided (ranking : Ranking) (x y : Value) :
    (ranking.score x y).equals
      (firstDecided ((ranking.leavesAt []).map (leafScore x y))) = true :=
  Number.equals_iff.2 ⟨score_partOf [] x y ranking, ranking.rank?_score x y⟩

/-- The score of two records lies to zero as they are in order. -/
theorem order?_score (ranking : Ranking) (x y : Value) :
    (ranking.score x y).order? .zero = some (ranking.compare x y) := by
  have hnumber := ranking.rank?_score x y
  cases hrank : (ranking.score x y).rank? with
  | none => simp [hrank] at hnumber
  | some r => rw [compare, Number.order?, hrank, Number.rank?_zero, Option.getD_some]

/-! ## Source -/

/-- The source of the score by a leaf. -/
def leafSource (leaf : Path × Criterion) : String := leaf.2.source leaf.1

/-- A ranking has a leaf. -/
theorem leavesAt_ne_nil (path : Path) : ∀ ranking : Ranking, ranking.leavesAt path ≠ []
  | leaf _ | fields [] => List.cons_ne_nil _ _
  | fields ((key, child) :: rest) => by
    rw [leavesAt, childLeaves]
    exact List.append_ne_nil_of_left_ne_nil (leavesAt_ne_nil (path ++ [key]) child) _

mutual
/-- The expression of a ranking has the sources of its leaves between bars, however it is nested. -/
theorem expression_eq_intercalate (path : Path) : ∀ ranking : Ranking,
    ranking.expression path = String.intercalate " || " ((ranking.leavesAt path).map leafSource)
  | leaf _ | fields [] => String.intercalate_singleton.symm
  | fields (child :: rest) => intercalate_fieldExpressions path (child :: rest)

/-- The expressions of fields between bars are the sources of their leaves between bars. -/
theorem intercalate_fieldExpressions (path : Path) : ∀ children : List (String × Ranking),
    String.intercalate " || " (fieldExpressions path children) =
      String.intercalate " || " ((childLeaves path children).map leafSource)
  | [] => rfl
  | [(key, child)] => by
    rw [fieldExpressions, fieldExpressions, String.intercalate_singleton, childLeaves, childLeaves,
      List.append_nil]
    exact expression_eq_intercalate (path ++ [key]) child
  | (key, child) :: (key', child') :: rest => by
    have hchild := expression_eq_intercalate (path ++ [key]) child
    have hrest := intercalate_fieldExpressions path ((key', child') :: rest)
    have hothers : fieldExpressions path ((key', child') :: rest) ≠ [] := List.cons_ne_nil _ _
    have hleaves : (child.leavesAt (path ++ [key])).map leafSource ≠ [] :=
      mt List.map_eq_nil_iff.1 (leavesAt_ne_nil _ child)
    have hmore : (childLeaves path ((key', child') :: rest)).map leafSource ≠ [] :=
      mt List.map_eq_nil_iff.1 (leavesAt_ne_nil path (fields ((key', child') :: rest)))
    rw [childLeaves, List.map_append, String.intercalate_append_of_ne_nil hleaves hmore,
      fieldExpressions, String.intercalate_cons_of_ne_nil hothers, hchild, hrest]
end

/-! ## Specifications -/

/-- A specified ranking is the list of the leaves of its specification, in their order. The score of
two records is that of the first leaf whose score is not zero, and else zero, it is a number, and
its sign is their order. The source tries the sources of the leaves, in which a part is written as
an access to one key after the other. -/
theorem score_source_of_leaves {limit : Nat} {spec : Option Value} {ranking : Ranking}
    (hspec : ofSpecification limit spec = .ok ranking) :
    let leaves := specifiedLeaves spec
    (∀ x y, (ranking.score x y).equals (firstDecided (leaves.map (leafScore x y))) = true ∧
      ranking.score x y ≠ .nan ∧
      (ranking.score x y).order? .zero = some (ranking.compare x y)) ∧
    ranking.source = "return " ++ String.intercalate " || " (leaves.map leafSource) ++ ";" ∧
    ∀ root path, Path.expression root path =
      root ++ String.join (path.map fun key => "?.[" ++ Text.quote key ++ "]") := by
  intro leaves
  have hleaves : ranking.leavesAt [] = leaves := leavesAt_ofSpecification hspec
  refine ⟨fun x y => ⟨?_, ?_, ranking.order?_score x y⟩, ?_, Path.expression_eq_append⟩
  · rw [← hleaves]
    exact ranking.score_equals_firstDecided x y
  · intro hnan
    have hnumber := ranking.rank?_score x y
    rw [hnan] at hnumber
    cases hnumber
  · rw [source, expression_eq_intercalate, hleaves]

/-- A leaf in an object, an object without fields, and a leaf in an array. -/
theorem score_source_of_leaves_of_nested :
    let spec : Value := .object
      [("o", .object [("k", .number (.ofInt 1)), ("e", .object [])]),
        ("l", .array [.string "DESC"])]
    let leaves := [(["o", "k"], Criterion.difference .ascending), (["o", "e"], .neutral),
      (["l", "0"], .text .descending)]
    ∃ ranking, ofSpecification 2 (some spec) = .ok ranking ∧
      (∀ x y, (ranking.score x y).equals (firstDecided (leaves.map (leafScore x y))) = true ∧
        ranking.score x y ≠ .nan ∧
        (ranking.score x y).order? .zero = some (ranking.compare x y)) ∧
      ranking.source = "return ((a?.[\"o\"]?.[\"k\"] - b?.[\"o\"]?.[\"k\"]) * 1) || 0 || " ++
        "(a?.[\"l\"]?.[\"0\"]?.localeCompare(b?.[\"l\"]?.[\"0\"]) * -1);" := by
  intro spec leaves
  obtain ⟨ranking, hspec⟩ : ∃ ranking, ofSpecification 2 (some spec) = .ok ranking := ⟨_, rfl⟩
  have hleaves : specifiedLeaves (some spec) = leaves := by decide +kernel
  obtain ⟨hscore, hsource, _⟩ := score_source_of_leaves hspec
  rw [hleaves] at hscore hsource
  exact ⟨ranking, hspec, hscore, hsource.trans (by decide +kernel)⟩

end Ranking

end RecordQuery
