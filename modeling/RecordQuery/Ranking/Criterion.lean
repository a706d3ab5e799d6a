import RecordQuery.Path
import RecordQuery.Ranking.Collation
import RecordQuery.Value.Order

/-!
# Criteria

A criterion says how two values compare, as a score: negative if the first goes before the second,
and zero if they tie. It is what a leaf of a sort specification stands for, and it is written in
source as an expression in the two parts that are compared.
-/

namespace RecordQuery

/-- Which end of an order comes first. -/
inductive Direction where
  | ascending
  | descending
deriving DecidableEq

/-- The score in the direction. -/
def Direction.apply : Direction → Number → Number
  | ascending, score => score
  | descending, score => score.neg

/-- The factor that stands for the direction in source. -/
def Direction.factor : Direction → String
  | ascending => "1"
  | descending => "-1"

/-- How two values compare. -/
inductive Criterion where
  /-- By their texts. -/
  | text (direction : Direction)
  /-- By their difference as numbers. -/
  | difference (direction : Direction)
  /-- By the relational order of values. -/
  | order (direction : Direction)
  /-- Not at all. -/
  | neutral
deriving DecidableEq

namespace Criterion

/-- The score of an ordering. -/
def scoreOf : Ordering → Number
  | .lt => .ofInt (-1)
  | .eq => .zero
  | .gt => .ofInt 1

/-- The direction that a word stands for, in any case of its letters. -/
def directionOf? (word : String) : Option Direction :=
  let word := word.map Char.toLower
  if word = "asc" ∨ word = "1" then some .ascending
  else if word = "desc" ∨ word = "-1" then some .descending
  else none

/-- The criterion that a leaf of a specification stands for. -/
def ofLeaf : Value → Criterion
  | .string word => ((directionOf? word).map text).getD neutral
  | .number n =>
    if n.equals (.ofInt 1) then difference .ascending
    else if n.equals (.ofInt (-1)) then difference .descending
    else neutral
  | .bool b => order (if b then .ascending else .descending)
  | _ => neutral

/-- The score of two values. By texts, a first value that is not there ties with everything; a
difference that is no number, and values without order, tie too. -/
def score : Criterion → Value → Value → Number
  | text direction, x, y =>
    if x.isNullish then .zero else direction.apply (scoreOf (Text.collate x.text y.text))
  | difference direction, x, y =>
    match x.toNumber.sub y.toNumber with
    | .nan => .zero
    | d => direction.apply d
  | order direction, x, y =>
    match x.order? y with
    | some o => direction.apply (scoreOf o)
    | none => .zero
  | neutral, _, _ => .zero

/-- The source of the score of two parts at a path. -/
def source (path : Path) : Criterion → String
  | text direction =>
    "(" ++ path.expression "a" ++ "?.localeCompare(" ++ path.expression "b" ++ ") * "
      ++ direction.factor ++ ")"
  | difference direction =>
    "((" ++ path.expression "a" ++ " - " ++ path.expression "b" ++ ") * " ++ direction.factor ++ ")"
  | order direction =>
    "((" ++ path.expression "a" ++ " > " ++ path.expression "b" ++ " ? 1 : "
      ++ path.expression "a" ++ " < " ++ path.expression "b" ++ " ? -1 : 0) * "
      ++ direction.factor ++ ")"
  | neutral => "0"

end Criterion

end RecordQuery
