import RecordQuery.Filter.Clause
import RecordQuery.Query.OfSpecification
import RecordQuery.Text.Shown

/-!
# Filters

A filter is compiled from a specification and says of each record whether it fits. It keeps the
compiled clauses and the context that they were compiled in, and both its verdicts and its source
are read off them: the source declares the sets, and then returns the expression for the verdict.
-/

namespace RecordQuery

/-- A compiled specification. -/
structure Filter where
  /-- What is to hold of a record; without it the filter fits no record. -/
  clauses? : Option (List (Clause Test))
  /-- What the source refers to by name. -/
  context : Context

namespace Filter

/-- The filter of a query. -/
def ofQuery (query : Query) : Filter :=
  let (clauses, context) := Clause.compileAll [] .empty query
  ⟨some clauses, context⟩

/-- The filter that a value specifies, nested no deeper than the limit. The record must match a
bare value that is a pattern and equal any other, and an undefined one fits nothing. -/
def ofSpecification (limit : Nat) : Value → Except CompileError Filter
  | .undefined => .ok ⟨none, .empty⟩
  | .object fields => (Query.ofSpecification limit (.object fields)).map ofQuery
  | .array items => (Query.ofSpecification limit (.array items)).map ofQuery
  | .regex p => .ok (ofQuery [.condition (.pattern false p)])
  | v => .ok (ofQuery [.condition (.equality false v)])

/-- The record fits. -/
def fits (filter : Filter) (v : Value) : Verdict :=
  match filter.clauses? with
  | some clauses => Clause.allHold Test.holds clauses v
  | none => .ok false

/-- The records that fit, in their order; the first failure is the error. -/
def select (filter : Filter) : List Value → Except EvalError (List Value)
  | [] => .ok []
  | v :: rest => do
    let keep ← filter.fits v
    let more ← filter.select rest
    return if keep then v :: more else more

/-- The expression for the verdict. -/
def expression (filter : Filter) : String :=
  match filter.clauses? with
  | some clauses => Clause.conjunction (Clause.sources [] clauses)
  | none => "false"

/-- The source that the filter stands for. -/
def source (filter : Filter) : String :=
  filter.context.source ++ "return " ++ filter.expression ++ ";"

/-- The number of declared sets. -/
def declarations (filter : Filter) : Nat := filter.context.declarations.length

/-- The number of values in slots. -/
def slots (filter : Filter) : Nat := filter.context.slots.length

/-- The filter as it is shown for diagnosis. -/
def shown (filter : Filter) : String :=
  "Filter \x7b source: " ++ Text.shown filter.source ++ " \x7d"

end Filter

end RecordQuery
