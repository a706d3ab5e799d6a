import RecordQuery.Ranking.Criterion
import RecordQuery.Ranking.Sorting
import RecordQuery.Specification
import RecordQuery.Text.Shown
import RecordQuery.Value.Access

/-!
# Rankings

A ranking puts records in order by criteria on their parts. It is specified by objects and arrays,
arrays being read as objects keyed by index, whose leaves say how two records compare on the part
they stand at. The first criterion with a score other than zero decides. Sorting by a ranking is
stable.
-/

namespace RecordQuery

/-- Criteria on the parts of a record. -/
inductive Ranking where
  /-- A criterion on the whole. -/
  | leaf (criterion : Criterion)
  /-- Rankings of the fields, the first with a decision deciding. -/
  | fields (children : List (String × Ranking))

namespace Ranking

/-! ## Specification -/

mutual
/-- The ranking that a part of a specification at some depth asks for. -/
def ofPart (limit depth : Nat) : Value → Except CompileError Ranking
  | .object parts =>
    Specification.within limit depth ((ofFields limit (depth + 1) parts).map fields)
  | .array items =>
    Specification.within limit depth ((ofItems limit (depth + 1) 0 items).map fields)
  | v => Specification.within limit depth (.ok (leaf (Criterion.ofLeaf v)))

/-- The rankings of fields at some depth. -/
def ofFields (limit depth : Nat) :
    List (String × Value) → Except CompileError (List (String × Ranking))
  | [] => .ok []
  | (key, v) :: rest => do
    let child ← ofPart limit depth v
    return (key, child) :: (← ofFields limit depth rest)

/-- The rankings of items at some depth, keyed by index, from an index on. -/
def ofItems (limit depth : Nat) :
    Nat → List Value → Except CompileError (List (String × Ranking))
  | _, [] => .ok []
  | i, v :: rest => do
    let child ← ofPart limit depth v
    return (Text.decimal i, child) :: (← ofItems limit depth (i + 1) rest)
end

/-- The ranking that a value specifies, nested no deeper than the limit. Without a specification
all records tie. -/
def ofSpecification (limit : Nat) : Option Value → Except CompileError Ranking
  | some v => ofPart limit 0 v
  | none => .ok (leaf .neutral)

/-! ## Comparison -/

mutual
/-- The score of two values. -/
def score : Ranking → Value → Value → Number
  | leaf criterion, x, y => criterion.score x y
  | fields children, x, y => scoreFields children x y

/-- The first score other than zero among those of fields, and else zero. -/
def scoreFields : List (String × Ranking) → Value → Value → Number
  | [], _, _ => .zero
  | (key, child) :: rest, x, y =>
    let first := child.score (x.get key) (y.get key)
    if first.equals .zero then scoreFields rest x y else first
end

/-- The order of two values: the sign of their score. -/
def compare (ranking : Ranking) (x y : Value) : Ordering :=
  ((ranking.score x y).order? .zero).getD .eq

/-- The values in order; values that tie keep their order. -/
def sort (ranking : Ranking) (values : List Value) : List Value :=
  Sorting.sort ranking.compare values

/-! ## Source -/

mutual
/-- The expression for the score of the parts at a path: the criterion's, or those of the fields,
tried one after the other. -/
def expression (path : Path) : Ranking → String
  | leaf criterion => criterion.source path
  | fields [] => Criterion.neutral.source path
  | fields (child :: rest) =>
    String.intercalate " || " (fieldExpressions path (child :: rest))

/-- The expressions for the scores of fields. -/
def fieldExpressions (path : Path) : List (String × Ranking) → List String
  | [] => []
  | (key, child) :: rest => child.expression (path ++ [key]) :: fieldExpressions path rest
end

/-- The source that the ranking stands for. -/
def source (ranking : Ranking) : String := "return " ++ ranking.expression [] ++ ";"

/-- The ranking as it is shown for diagnosis. -/
def shown (ranking : Ranking) : String :=
  "Sort \x7b source: " ++ Text.shown ranking.source ++ " \x7d"

end Ranking

end RecordQuery
