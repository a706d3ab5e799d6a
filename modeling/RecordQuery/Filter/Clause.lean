import RecordQuery.Filter.Test
import RecordQuery.Query.Basic

/-!
# Compiled clauses

Clauses are compiled condition by condition in the order of the query, each in the context that the
conditions before it leave behind. Compiled clauses have a source: an expression in the variable
that holds the record.
-/

namespace RecordQuery

namespace Clause

/-! ## Compilation -/

/-- The variable of a source that holds the record. -/
def recordVariable : String := "data"

mutual
/-- A clause on the part at a path, with its operands written out. -/
def compile (path : Path) (context : Context) : Clause Condition → Clause Test × Context
  | condition c =>
    let (test, context) := context.test (path.expression recordVariable) c
    (condition test, context)
  | logic connective operands =>
    let (queries, context) := compileQueries path context operands
    (logic connective queries, context)
  | field key query =>
    let (clauses, context) := compileAll (path ++ [key]) context query
    (field key clauses, context)

/-- Clauses on the part at a path, one after the other. -/
def compileAll (path : Path) (context : Context) :
    List (Clause Condition) → List (Clause Test) × Context
  | [] => ([], context)
  | clause :: rest =>
    let (first, context) := clause.compile path context
    let (more, context) := compileAll path context rest
    (first :: more, context)

/-- Queries on the part at a path, one after the other. -/
def compileQueries (path : Path) (context : Context) :
    List (List (Clause Condition)) → List (List (Clause Test)) × Context
  | [] => ([], context)
  | query :: rest =>
    let (first, context) := compileAll path context query
    let (more, context) := compileQueries path context rest
    (first :: more, context)
end

/-! ## Source -/

/-- The source of clauses that are all to hold, from their sources. -/
def conjunction (sources : List String) : String :=
  if sources.isEmpty then "true" else String.intercalate " && " sources

mutual
/-- The source of a clause on the part at a path. -/
def source (path : Path) : Clause Test → String
  | condition test => test.source (path.expression recordVariable)
  | logic .and operands => "(" ++ String.intercalate " && " (querySources path operands) ++ ")"
  | logic .or operands => "(" ++ String.intercalate " || " (querySources path operands) ++ ")"
  | logic .nor operands => "!(" ++ String.intercalate " || " (querySources path operands) ++ ")"
  | logic .nand operands => "!(" ++ String.intercalate " && " (querySources path operands) ++ ")"
  | field key query => conjunction (sources (path ++ [key]) query)

/-- The sources of clauses on the part at a path. -/
def sources (path : Path) : List (Clause Test) → List String
  | [] => []
  | clause :: rest => clause.source path :: sources path rest

/-- The sources of queries on the part at a path. -/
def querySources (path : Path) : List (List (Clause Test)) → List String
  | [] => []
  | query :: rest => conjunction (sources path query) :: querySources path rest
end

end Clause

end RecordQuery
