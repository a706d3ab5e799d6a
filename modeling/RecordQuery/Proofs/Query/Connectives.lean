import RecordQuery.Filter.Clause
import RecordQuery.Proofs.Source.Judgement

/-!
# Laws of connectives

Connectives obey the laws of truth values although each operand may fail instead of answering:
deciding from left to right, the two sides of a law look at the same conditions in the same order
and stop at the same one. The laws are first stated of clauses whose conditions are judged in any
way (`Clause.Equivalent`). Compilation goes through a query from left to right too, so both sides
write out the same operands in the same context, and queries that are combined lawfully can stand
for each other wherever they are compiled (`Query.Interchangeable`,
`Query.connectives_interchangeable`).
-/

namespace RecordQuery

namespace Clause

variable {α : Type}

/-- The query that holds where the given one does not. -/
def opposite (query : List (Clause α)) : List (Clause α) := [logic .nand [query]]

/-! ## Verdicts -/

section
variable (leaf : α → Value → Verdict) (query : List (Clause α)) (queries : List (List (Clause α)))
  (v : Value)

/-- One clause holds as a query. -/
theorem allHold_singleton (clause : Clause α) : allHold leaf [clause] v = clause.holds leaf v := by
  rw [allHold, allHold, Verdict.both_true]

/-- One query holds as all there are. -/
theorem everyQueryHolds_singleton : everyQueryHolds leaf [query] v = allHold leaf query v := by
  rw [everyQueryHolds, everyQueryHolds, Verdict.both_true]

/-- One query holds as one of those there are. -/
theorem someQueryHolds_singleton : someQueryHolds leaf [query] v = allHold leaf query v := by
  rw [someQueryHolds, someQueryHolds, Verdict.either_false]

/-- The opposite of a query has the opposite verdict. -/
theorem allHold_opposite : allHold leaf (opposite query) v =
    (allHold leaf query v).negateIf true := by
  rw [opposite, allHold_singleton, holds, everyQueryHolds_singleton]

/-- Every query holds when the first of them do and the others do. -/
theorem everyQueryHolds_append (first second : List (List (Clause α))) :
    everyQueryHolds leaf (first ++ second) v =
      (everyQueryHolds leaf first v).both (everyQueryHolds leaf second v) := by
  induction first with
  | nil => rfl
  | cons query rest ih => simp only [List.cons_append, everyQueryHolds, ih, Verdict.both_assoc]

/-- Some query holds when one of the first does or one of the others does. -/
theorem someQueryHolds_append (first second : List (List (Clause α))) :
    someQueryHolds leaf (first ++ second) v =
      (someQueryHolds leaf first v).either (someQueryHolds leaf second v) := by
  induction first with
  | nil => rfl
  | cons query rest ih => simp only [List.cons_append, someQueryHolds, ih, Verdict.either_assoc]

/-- The opposites of queries all hold when none of the queries holds. -/
theorem everyQueryHolds_opposites : everyQueryHolds leaf (queries.map opposite) v =
    (someQueryHolds leaf queries v).negateIf true := by
  induction queries with
  | nil => rfl
  | cons query rest ih =>
    rw [List.map_cons, everyQueryHolds, ih, allHold_opposite, ← Verdict.negateIf_either,
      ← someQueryHolds]

/-- One of the opposites of queries holds when not all of the queries hold. -/
theorem someQueryHolds_opposites : someQueryHolds leaf (queries.map opposite) v =
    (everyQueryHolds leaf queries v).negateIf true := by
  induction queries with
  | nil => rfl
  | cons query rest ih =>
    rw [List.map_cons, someQueryHolds, ih, allHold_opposite, ← Verdict.negateIf_both,
      ← everyQueryHolds]

/-- The clauses of queries hold together when every query does. -/
theorem allHold_flatten : allHold leaf queries.flatten v = everyQueryHolds leaf queries v := by
  induction queries with
  | nil => rfl
  | cons query rest ih => rw [List.flatten_cons, allHold_append, ih, ← everyQueryHolds]

end

/-- The queries have the same verdict on every value, however their conditions are judged. -/
def Equivalent (query query' : List (Clause α)) : Prop :=
  ∀ (leaf : α → Value → Verdict) (v : Value), allHold leaf query v = allHold leaf query' v

section
variable (query : List (Clause α)) (before nested after queries : List (List (Clause α)))

/-- None of the queries holds when each of their opposites does. -/
theorem equivalent_nor :
    Equivalent [logic .nor queries] [logic .and (queries.map opposite)] := by
  intro leaf v
  rw [allHold_singleton, allHold_singleton, holds, holds, everyQueryHolds_opposites]

/-- Not all of the queries hold when one of their opposites does. -/
theorem equivalent_nand :
    Equivalent [logic .nand queries] [logic .or (queries.map opposite)] := by
  intro leaf v
  rw [allHold_singleton, allHold_singleton, holds, holds, someQueryHolds_opposites]

/-- All of the queries hold when their clauses hold together. -/
theorem equivalent_and : Equivalent [logic .and queries] queries.flatten := by
  intro leaf v
  rw [allHold_singleton, holds, allHold_flatten]

/-- A conjunction among the operands of a conjunction can be replaced by its operands. -/
theorem equivalent_and_nested :
    Equivalent [logic .and (before ++ [logic .and nested] :: after)]
      [logic .and (before ++ nested ++ after)] := by
  intro leaf v
  rw [allHold_singleton, allHold_singleton, holds, holds, everyQueryHolds_append, everyQueryHolds,
    allHold_singleton, holds, everyQueryHolds_append, everyQueryHolds_append, Verdict.both_assoc]

/-- A disjunction among the operands of a disjunction can be replaced by its operands. -/
theorem equivalent_or_nested :
    Equivalent [logic .or (before ++ [logic .or nested] :: after)]
      [logic .or (before ++ nested ++ after)] := by
  intro leaf v
  rw [allHold_singleton, allHold_singleton, holds, holds, someQueryHolds_append, someQueryHolds,
    allHold_singleton, holds, someQueryHolds_append, someQueryHolds_append, Verdict.either_assoc]

/-- The opposite of the opposite of a query is the query. -/
theorem equivalent_opposite : Equivalent (opposite (opposite query)) query := by
  intro leaf v
  rw [allHold_opposite, allHold_opposite, Verdict.negateIf_negateIf]

end

/-! ## Compilation -/

section
variable (path : Path) (context : Context)

/-- A query of one clause is compiled as the clause. -/
theorem compileAll_singleton (clause : Clause Condition) :
    compileAll path context [clause] =
      ([(clause.compile path context).1], (clause.compile path context).2) := rfl

/-- Clauses are compiled in the context that the clauses before them leave behind. -/
theorem compileAll_append (first second : List (Clause Condition)) :
    compileAll path context (first ++ second) =
      let (compiled, between) := compileAll path context first
      let (more, after) := compileAll path between second
      (compiled ++ more, after) := by
  induction first generalizing context with
  | nil => rfl
  | cons clause rest ih => simp only [List.cons_append, compileAll, ih]

/-- Queries are compiled in the context that the queries before them leave behind. -/
theorem compileQueries_append (first second : List (List (Clause Condition))) :
    compileQueries path context (first ++ second) =
      let (compiled, between) := compileQueries path context first
      let (more, after) := compileQueries path between second
      (compiled ++ more, after) := by
  induction first generalizing context with
  | nil => rfl
  | cons query rest ih => simp only [List.cons_append, compileQueries, ih]

/-- The clauses of queries are compiled as the queries. -/
theorem compileAll_flatten (queries : List (List (Clause Condition))) :
    compileAll path context queries.flatten =
      let (compiled, after) := compileQueries path context queries
      (compiled.flatten, after) := by
  induction queries generalizing context with
  | nil => rfl
  | cons query rest ih =>
    simp only [List.flatten_cons, compileAll_append, compileQueries, ih]

/-- The opposite of a query is compiled as the query. -/
theorem compileAll_opposite (query : List (Clause Condition)) :
    compileAll path context (opposite query) =
      let (compiled, after) := compileAll path context query
      (opposite compiled, after) := rfl

/-- The opposites of queries are compiled as the queries. -/
theorem compileQueries_opposites (queries : List (List (Clause Condition))) :
    compileQueries path context (queries.map opposite) =
      let (compiled, after) := compileQueries path context queries
      (compiled.map opposite, after) := by
  induction queries generalizing context with
  | nil => rfl
  | cons query rest ih => simp only [List.map_cons, compileQueries, compileAll_opposite, ih]

/-- A connective of queries is compiled as the queries. -/
theorem compileAll_logic (connective : Connective) (queries : List (List (Clause Condition))) :
    compileAll path context [logic connective queries] =
      let (compiled, after) := compileQueries path context queries
      ([logic connective compiled], after) := rfl

/-- The operands of a nested connective are compiled as they would be in its place. -/
theorem compileQueries_nested (connective : Connective)
    (before nested after : List (List (Clause Condition))) :
    ∃ before' nested' after' final,
      compileQueries path context (before ++ [logic connective nested] :: after) =
        (before' ++ [logic connective nested'] :: after', final) ∧
      compileQueries path context (before ++ nested ++ after) =
        (before' ++ nested' ++ after', final) := by
  simp only [compileQueries_append, compileQueries, compileAll_logic]
  exact ⟨_, _, _, _, rfl, rfl⟩

end

end Clause

namespace Query

open Clause

/-- Wherever one of the queries is compiled, the other could be: it leaves the same context behind,
and has the same verdict on every value, error or answer. -/
structure Interchangeable (query query' : Query) : Prop where
  context : ∀ path context, (compileAll path context query).2 = (compileAll path context query').2
  verdict : ∀ path context v, allHold Test.holds (compileAll path context query).1 v =
    allHold Test.holds (compileAll path context query').1 v

/-- Queries that are compiled to equivalent ones are interchangeable. -/
theorem interchangeable_of_equivalent {query query' : Query}
    (h : ∀ path context, ∃ compiled compiled' after,
      compileAll path context query = (compiled, after) ∧
      compileAll path context query' = (compiled', after) ∧ Equivalent compiled compiled') :
    Interchangeable query query' := by
  constructor
  · intro path context
    obtain ⟨compiled, compiled', after, hquery, hquery', _⟩ := h path context
    rw [hquery, hquery']
  · intro path context v
    obtain ⟨compiled, compiled', after, hquery, hquery', hequivalent⟩ := h path context
    rw [hquery, hquery']
    exact hequivalent Test.holds v

/-- None of the queries holds when each of their opposites does. -/
theorem interchangeable_nor (queries : List Query) :
    Interchangeable [.logic .nor queries] [.logic .and (queries.map opposite)] := by
  refine interchangeable_of_equivalent fun path context => ?_
  refine ⟨_, _, _, compileAll_logic .., ?_, equivalent_nor _⟩
  rw [compileAll_logic, compileQueries_opposites]

/-- Not all of the queries hold when one of their opposites does. -/
theorem interchangeable_nand (queries : List Query) :
    Interchangeable [.logic .nand queries] [.logic .or (queries.map opposite)] := by
  refine interchangeable_of_equivalent fun path context => ?_
  refine ⟨_, _, _, compileAll_logic .., ?_, equivalent_nand _⟩
  rw [compileAll_logic, compileQueries_opposites]

/-- All of the queries hold when their clauses hold together. -/
theorem interchangeable_and (queries : List Query) :
    Interchangeable [.logic .and queries] queries.flatten := by
  refine interchangeable_of_equivalent fun path context => ?_
  exact ⟨_, _, _, compileAll_logic .., compileAll_flatten .., equivalent_and _⟩

/-- A connective among its own operands can be replaced by its operands if it can when compiled. -/
theorem interchangeable_nested {connective : Connective}
    (h : ∀ before nested after : List (List (Clause Test)),
      Equivalent [logic connective (before ++ [logic connective nested] :: after)]
        [logic connective (before ++ nested ++ after)]) (before nested after : List Query) :
    Interchangeable [logic connective (before ++ [logic connective nested] :: after)]
      [logic connective (before ++ nested ++ after)] := by
  refine interchangeable_of_equivalent fun path context => ?_
  obtain ⟨before', nested', after', final, hnested, hflat⟩ :=
    compileQueries_nested path context connective before nested after
  refine ⟨_, _, final, ?_, ?_, h before' nested' after'⟩
  · rw [compileAll_logic, hnested]
  · rw [compileAll_logic, hflat]

/-- The opposite of the opposite of a query can be replaced by the query. -/
theorem interchangeable_opposite (query : Query) :
    Interchangeable (opposite (opposite query)) query := by
  refine interchangeable_of_equivalent fun path context => ?_
  refine ⟨_, _, _, ?_, rfl, equivalent_opposite _⟩
  rw [compileAll_opposite, compileAll_opposite]

/-- Connectives of queries obey the laws of truth values: none hold when each opposite does, not all
hold when one opposite does, which is the opposite of all holding, and all hold when their clauses
hold together; a connective among the operands of the same one can be replaced by its operands, and
the opposite of the opposite by the query. -/
theorem connectives_interchangeable (query : Query) (before nested after queries : List Query) :
    Interchangeable [.logic .nor queries] [.logic .and (queries.map opposite)] ∧
    Interchangeable [.logic .nand queries] [.logic .or (queries.map opposite)] ∧
    (∀ path context v,
      (compileAll path context [.logic .nand queries]).2 =
        (compileAll path context [.logic .and queries]).2 ∧
      allHold Test.holds (compileAll path context [.logic .nand queries]).1 v =
        (allHold Test.holds (compileAll path context [.logic .and queries]).1 v).negateIf true) ∧
    Interchangeable [.logic .and queries] queries.flatten ∧
    Interchangeable [.logic .or (before ++ [.logic .or nested] :: after)]
      [.logic .or (before ++ nested ++ after)] ∧
    Interchangeable [.logic .and (before ++ [.logic .and nested] :: after)]
      [.logic .and (before ++ nested ++ after)] ∧
    Interchangeable (opposite (opposite query)) query := by
  refine ⟨interchangeable_nor queries, interchangeable_nand queries, ?_,
    interchangeable_and queries, interchangeable_nested equivalent_or_nested before nested after,
    interchangeable_nested equivalent_and_nested before nested after,
    interchangeable_opposite query⟩
  intro path context v
  rw [compileAll_logic, compileAll_logic, allHold_singleton, allHold_singleton]
  exact ⟨rfl, rfl⟩

end Query

end RecordQuery
