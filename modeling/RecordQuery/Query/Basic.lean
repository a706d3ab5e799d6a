import RecordQuery.Query.Condition
import RecordQuery.Query.Verdict

/-!
# Queries

A query is a list of clauses on one value, all of which are to hold. The tree of clauses is the
same before and after operands are written out, so it takes the type of its conditions as a
parameter, and its verdict takes theirs.
-/

namespace RecordQuery

/-- A clause of a query with conditions in `α`. -/
inductive Clause (α : Type) where
  /-- A condition on the value. -/
  | condition (c : α)
  /-- Queries on the value, combined. -/
  | logic (connective : Connective) (operands : List (List (Clause α)))
  /-- A query on a field of the value. -/
  | field (key : String) (query : List (Clause α))

/-- The clauses that a specification asks for. -/
abbrev Query := List (Clause Condition)

namespace Clause

variable {α : Type}

mutual
/-- The clause holds of a value, where `leaf` judges conditions. -/
def holds (leaf : α → Value → Verdict) : Clause α → Value → Verdict
  | condition c, v => leaf c v
  | logic .and operands, v => everyQueryHolds leaf operands v
  | logic .or operands, v => someQueryHolds leaf operands v
  | logic .nor operands, v => (someQueryHolds leaf operands v).negateIf true
  | logic .nand operands, v => (everyQueryHolds leaf operands v).negateIf true
  | field key query, v => allHold leaf query (v.get key)

/-- All clauses hold of a value. -/
def allHold (leaf : α → Value → Verdict) : List (Clause α) → Value → Verdict
  | [], _ => .ok true
  | clause :: rest, v => (clause.holds leaf v).both (allHold leaf rest v)

/-- Every query holds of a value. -/
def everyQueryHolds (leaf : α → Value → Verdict) : List (List (Clause α)) → Value → Verdict
  | [], _ => .ok true
  | query :: rest, v => (allHold leaf query v).both (everyQueryHolds leaf rest v)

/-- Some query holds of a value. -/
def someQueryHolds (leaf : α → Value → Verdict) : List (List (Clause α)) → Value → Verdict
  | [], _ => .ok false
  | query :: rest, v => (allHold leaf query v).either (someQueryHolds leaf rest v)
end

/-- Clauses hold together when the first of them do and the others do. -/
theorem allHold_append (leaf : α → Value → Verdict) (first second : List (Clause α)) (v : Value) :
    allHold leaf (first ++ second) v = (allHold leaf first v).both (allHold leaf second v) := by
  induction first with
  | nil => rfl
  | cons clause rest ih => simp only [List.cons_append, allHold, ih, Verdict.both_assoc]

end Clause

end RecordQuery
