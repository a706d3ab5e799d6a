import RecordQuery.Query.Basic

/-!
# The meaning of queries

What a query says about a value, read off its conditions one by one: operands are used as they were
given, and membership is a search through the operand. Filters are measured against this.
-/

namespace RecordQuery

/-- The condition holds of a value. -/
def Condition.holds : Condition → Value → Verdict
  | equality negated operand, v => .ok (negated ^^ v.strictEquals operand)
  | relation r operand, v => .ok (v.related r operand)
  | existence expected, v => .ok (v.existsAs expected)
  | pattern negated p, v => .ok (negated ^^ v.matchesPattern p)
  | inclusion negated operand, v => (v.includes (.inclusion negated) operand).negateIf negated
  | bits negated mask, v => (v.hasBits (.bits negated) mask).negateIf negated
  | type negated name, v => .ok (negated ^^ v.isOfType name)
  | membership negated items, v => .ok (negated ^^ items.any (· == v))
  | subset negated items, v =>
    (v.allItemsIn (.subset negated) fun item => items.any (· == item)).negateIf negated
  | superset negated items, v =>
    match v.elements (.superset negated) with
    | .ok present => .ok (negated ^^ items.all fun item => present.any (· == item))
    | .error e => .error e
  | overlap negated (.array items), v =>
    (v.overlapsWith (.overlap negated) (fun item => items.any (· == item)) items).negateIf negated
  | overlap negated operand, v => (v.includes (.overlap negated) operand).negateIf negated

/-- The query holds of a value. -/
def Query.holds (query : Query) (v : Value) : Verdict := Clause.allHold Condition.holds query v

end RecordQuery
