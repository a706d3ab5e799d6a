import RecordQuery.Query.Basic
import RecordQuery.Specification

/-!
# Queries from specifications

A query is specified by an object, or by an array, which is read as an object keyed by index. Under
a keyword stands the operand of a condition or of a connective, and under any other key what is
asked of the field of that name: a query, or a bare value, which a field must match if it is a
pattern and equal otherwise. The same bare values may be operands of connectives. The first fault in
the order of the specification is the error; a part that lies too deep is refused before it is
looked at.
-/

namespace RecordQuery.Query

mutual
/-- The query of a part of a specification, one level below `depth` if it is an object or array. -/
def ofOperand (limit depth : Nat) (path : Path) : Value → Except CompileError Query
  | .regex p => .ok [.condition (.pattern false p)]
  | .object fields =>
    Specification.within limit (depth + 1) (ofFields limit (depth + 1) path fields)
  | .array items =>
    Specification.within limit (depth + 1) (ofItems limit (depth + 1) path 0 items)
  | v => .ok [.condition (.equality false v)]

/-- The clauses of the fields of an object at `depth`. -/
def ofFields (limit depth : Nat) (path : Path) :
    List (String × Value) → Except CompileError Query
  | [] => .ok []
  | (key, v) :: rest => do
    let clause ← match Keyword.ofKey? key with
      | some (.condition operator) =>
        (Condition.ofOperand operator (path ++ [key]) v).map Clause.condition
      | some (.logic connective) =>
        match v with
        | .array [] => .error (.emptyOperands (path ++ [key]) connective)
        | .array items =>
          (ofOperands limit depth (path ++ [key]) 0 items).map (Clause.logic connective)
        | .undefined => .error (.undefinedSpecification (path ++ [key]))
        | v => (ofOperand limit depth (path ++ [key]) v).map fun query =>
          Clause.logic connective [query]
      | none => (ofOperand limit depth (path ++ [key]) v).map (Clause.field key)
    return clause :: (← ofFields limit depth path rest)

/-- The clauses of the items of an array at `depth`, from an index on. -/
def ofItems (limit depth : Nat) (path : Path) :
    Nat → List Value → Except CompileError Query
  | _, [] => .ok []
  | i, v :: rest => do
    let query ← ofOperand limit depth (path ++ [Text.decimal i]) v
    return .field (Text.decimal i) query :: (← ofItems limit depth path (i + 1) rest)

/-- The queries of the operands of a connective, from an index on. -/
def ofOperands (limit depth : Nat) (path : Path) :
    Nat → List Value → Except CompileError (List Query)
  | _, [] => .ok []
  | i, v :: rest => do
    let query ← match v with
      | .undefined => .error (.undefinedSpecification (path ++ [Text.decimal i]))
      | v => ofOperand limit depth (path ++ [Text.decimal i]) v
    return query :: (← ofOperands limit depth path (i + 1) rest)
end

/-- The query that a value specifies, nested no deeper than the limit. -/
def ofSpecification (limit : Nat) : Value → Except CompileError Query
  | .object fields => ofFields limit 0 [] fields
  | .array items => ofItems limit 0 [] 0 items
  | .undefined => .error (.undefinedSpecification [])
  | v => .error (.expectedQuery [] v.kind)

end RecordQuery.Query
