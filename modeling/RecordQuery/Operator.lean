/-!
# Operators

The reserved keys of a specification are its keywords: operators, which make conditions, and
connectives, which combine queries. Most operators come with their negation and carry a flag for
it. Any key that is no keyword names a field.
-/

namespace RecordQuery

/-- How a value lies to the operand in the order of values. -/
inductive Relation where
  | greater
  | greaterOrEqual
  | less
  | lessOrEqual
deriving DecidableEq

/-- The orderings under which the relation holds. -/
def Relation.accepts : Relation → Ordering → Bool
  | greater, o => o.isGT
  | greaterOrEqual, o => o.isGE
  | less, o => o.isLT
  | lessOrEqual, o => o.isLE

/-- The sign of a relation. -/
def Relation.sign : Relation → String
  | greater => ">"
  | greaterOrEqual => ">="
  | less => "<"
  | lessOrEqual => "<="

/-- How the verdicts of several queries on one value combine. -/
inductive Connective where
  /-- All of them hold. -/
  | and
  /-- One of them holds. -/
  | or
  /-- None of them holds. -/
  | nor
  /-- Not all of them hold. -/
  | nand
deriving DecidableEq

/-- What a condition asks of a value. -/
inductive Operator where
  /-- The value equals the operand. -/
  | equality (negated : Bool)
  /-- The value lies so to the operand. -/
  | relation (r : Relation)
  /-- The value is there, or is not. -/
  | existence
  /-- The text of the value matches the operand. -/
  | pattern (negated : Bool)
  /-- The value includes the operand as an item or a part. -/
  | inclusion (negated : Bool)
  /-- The value has all bits of the operand. -/
  | bits (negated : Bool)
  /-- The value is of the type that the operand names. -/
  | type (negated : Bool)
  /-- The value is one of the operand. -/
  | membership (negated : Bool)
  /-- All items of the value are in the operand. -/
  | subset (negated : Bool)
  /-- All items of the operand are in the value. -/
  | superset (negated : Bool)
  /-- The value includes one of the operand. -/
  | overlap (negated : Bool)
deriving DecidableEq

/-- A reserved key. -/
inductive Keyword where
  | condition (operator : Operator)
  | logic (connective : Connective)
deriving DecidableEq

/-- What a keyword needs beside its operand. -/
inductive KeywordKind where
  /-- Nothing. -/
  | pure
  /-- A set, built once or for each record. -/
  | setEffect
  /-- The verdicts of queries. -/
  | logic
deriving DecidableEq

/-- The key of an operator. -/
def Operator.name : Operator → String
  | equality negated => if negated then "$ne" else "$eq"
  | relation .greater => "$gt"
  | relation .greaterOrEqual => "$gte"
  | relation .less => "$lt"
  | relation .lessOrEqual => "$lte"
  | existence => "$exists"
  | pattern negated => if negated then "$nmatch" else "$match"
  | inclusion negated => if negated then "$nincl" else "$incl"
  | bits negated => if negated then "$nbits" else "$bits"
  | type negated => if negated then "$ntype" else "$type"
  | membership negated => if negated then "$nin" else "$in"
  | subset negated => if negated then "$nsub" else "$sub"
  | superset negated => if negated then "$nsup" else "$sup"
  | overlap negated => if negated then "$ncon" else "$con"

/-- The key of a connective. -/
def Connective.name : Connective → String
  | and => "$and"
  | or => "$or"
  | nor => "$nor"
  | nand => "$not"

namespace Keyword

/-- The key of a keyword. -/
def name : Keyword → String
  | condition operator => operator.name
  | logic connective => connective.name

/-- What the keyword needs beside its operand. -/
def kind : Keyword → KeywordKind
  | condition (.membership _) => .setEffect
  | condition (.subset _) => .setEffect
  | condition (.superset _) => .setEffect
  | condition (.overlap _) => .setEffect
  | condition _ => .pure
  | logic _ => .logic

/-- The keyword that a key stands for, if it is reserved. -/
def ofKey? : String → Option Keyword
  | "$eq" => some (condition (.equality false))
  | "$ne" => some (condition (.equality true))
  | "$gt" => some (condition (.relation .greater))
  | "$gte" => some (condition (.relation .greaterOrEqual))
  | "$lt" => some (condition (.relation .less))
  | "$lte" => some (condition (.relation .lessOrEqual))
  | "$exists" => some (condition .existence)
  | "$match" => some (condition (.pattern false))
  | "$nmatch" => some (condition (.pattern true))
  | "$incl" => some (condition (.inclusion false))
  | "$nincl" => some (condition (.inclusion true))
  | "$bits" => some (condition (.bits false))
  | "$nbits" => some (condition (.bits true))
  | "$type" => some (condition (.type false))
  | "$typeof" => some (condition (.type false))
  | "$ntype" => some (condition (.type true))
  | "$ntypeof" => some (condition (.type true))
  | "$in" => some (condition (.membership false))
  | "$nin" => some (condition (.membership true))
  | "$sub" => some (condition (.subset false))
  | "$nsub" => some (condition (.subset true))
  | "$sup" => some (condition (.superset false))
  | "$nsup" => some (condition (.superset true))
  | "$con" => some (condition (.overlap false))
  | "$ncon" => some (condition (.overlap true))
  | "$and" => some (logic .and)
  | "$or" => some (logic .or)
  | "$nor" => some (logic .nor)
  | "$not" => some (logic .nand)
  | _ => none

/-- The key of a keyword stands for it. -/
theorem ofKey?_name (keyword : Keyword) : ofKey? keyword.name = some keyword := by
  cases keyword with
  | condition operator =>
    cases operator with
    | relation r => cases r <;> rfl
    | existence => rfl
    | _ negated => cases negated <;> rfl
  | logic connective => cases connective <;> rfl

end Keyword

end RecordQuery
