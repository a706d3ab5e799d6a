import RecordQuery.Proofs.Filter.Membership
import RecordQuery.Proofs.Value.Part

/-!
# Conditions on a part

A specification that has a condition under the keys of a path asks it of the part that the path
leads to. `Filter.answerAt` is what the filter of such a specification makes of a record, and it is
what the condition makes of the part (`Filter.answerAt_eq`).
-/

namespace RecordQuery

/-! ## Values under a path -/

/-- The value in objects of one field each, which have the keys of the path. -/
def Value.under (path : Path) (v : Value) : Value :=
  path.foldr (fun key inner => .object [(key, inner)]) v

/-- The record is well formed, and the path leads to the value in it. -/
def Path.LeadsTo (path : Path) (record v : Value) : Prop :=
  record.WellFormed ∧ path.partOf record = v

/-- A value is found where it has been put. -/
theorem Path.leadsTo_under (path : Path) {v : Value} (hv : v.WellFormed) :
    path.LeadsTo (v.under path) v := by
  induction path with
  | nil => exact ⟨hv, rfl⟩
  | cons key rest ih =>
    refine ⟨Value.wellFormed_object.2 ⟨List.pairwise_singleton _ _, ?_⟩, ?_⟩
    · exact List.forall_mem_singleton.2 ih.1
    · have hget : (Value.under (key :: rest) v).get key = v.under rest :=
        congrArg (Option.getD · Value.undefined) List.lookup_cons_self
      rw [partOf, List.foldl_cons, hget, ← partOf, ih.2]

/-- What a path leads to is well formed. -/
theorem Path.LeadsTo.wellFormed {path : Path} {record v : Value} (h : path.LeadsTo record v) :
    v.WellFormed :=
  h.2 ▸ wellFormed_partOf h.1 path

/-! ## Queries under a path -/

namespace Query

/-- The query asked of the part that the path leads to. -/
def under (path : Path) (query : Query) : Query :=
  path.foldr (fun key inner => [.field key inner]) query

variable {path : Path} {query : Query}

/-- A query under a path holds as it does of the part. -/
theorem holds_under (v : Value) : (query.under path).holds v = query.holds (path.partOf v) := by
  induction path generalizing v with
  | nil => rfl
  | cons key rest ih =>
    have hclause : (query.under (key :: rest)).holds v = (query.under rest).holds (v.get key) := by
      rw [holds, under, List.foldr_cons, Clause.allHold_singleton, Clause.holds, ← under, ← holds]
    rw [hclause, ih, Path.partOf, Path.partOf, List.foldl_cons]

/-- A well-formed query is well formed under a path. -/
theorem wellFormed_under (h : Clause.WellFormedLevel query) (path : Path) :
    Clause.WellFormedLevel (query.under path) := by
  induction path with
  | nil => exact h
  | cons key rest ih => exact ⟨ih, trivial⟩

/-- A specification under keys that are no keywords is the query under them, and it needs as many
more levels. -/
theorem ofSpecification_under {limit : Nat} {spec : Value}
    (hkeys : ∀ key ∈ path, Keyword.ofKey? key = none) (h : ofSpecification limit spec = .ok query) :
    ofSpecification (limit + path.length) (spec.under path) = .ok (query.under path) := by
  induction path with
  | nil => exact h
  | cons key rest ih =>
    rw [List.forall_mem_cons] at hkeys
    have hinner := ofOperand_of_ofSpecification (ih hkeys.2) [key]
    refine ofFields_eq_ok.2 (.cons ?_ .nil)
    simp only [clauseOf, hkeys.1]
    exact map_eq_ok.2 ⟨query.under rest, hinner, rfl⟩

end Query

/-! ## Filters -/

namespace Filter

/-- What is accepted as a query is accepted with the filter of the query. -/
theorem ofSpecification_of_query {limit : Nat} {spec : Value} {query : Query}
    (h : Query.ofSpecification limit spec = .ok query) :
    ofSpecification limit spec = .ok (ofQuery query) := by
  cases spec with
  | object | array => exact map_eq_ok.2 ⟨query, h, rfl⟩
  | undefined | null | bool | number | bigint | string | regex => cases h

/-- What the filter that has one condition under a path makes of a record, if the specification is
accepted. -/
def answerAt (limit : Nat) (path : Path) (word : String) (operand record : Value) :
    Except CompileError Verdict :=
  (ofSpecification limit (.under path (.object [(word, operand)]))).map (·.fits record)

variable {limit : Nat} {path : Path}

/-- A condition under keys that are no keywords is asked of the part that they lead to. -/
theorem answerAt_eq (operator : Operator) (hkeys : ∀ key ∈ path, Keyword.ofKey? key = none)
    (hlimit : path.length ≤ limit) {operand record v : Value} {c : Condition}
    (h : Condition.ofOperand operator [operator.name] operand = .ok c) (hc : c.WellFormed)
    (hrecord : path.LeadsTo record v) :
    answerAt limit path operator.name operand record = .ok (c.holds v) := by
  obtain ⟨hwell, rfl⟩ := hrecord
  have hkey : Keyword.ofKey? operator.name = some (.condition operator) :=
    Keyword.ofKey?_name (.condition operator)
  have hclause : Query.clauseOf (limit - path.length) 0 [] operator.name operand =
      .ok (.condition c) := by
    simp only [Query.clauseOf, hkey]
    exact map_eq_ok.2 ⟨c, h, rfl⟩
  have hcondition : Query.ofSpecification (limit - path.length)
      (.object [(operator.name, operand)]) = .ok [.condition c] :=
    Query.ofFields_eq_ok.2 (.cons hclause .nil)
  have hspec := Query.ofSpecification_under hkeys hcondition
  rw [Nat.sub_add_cancel hlimit] at hspec
  have hw : Clause.WellFormedLevel [.condition c] := ⟨hc, trivial⟩
  refine map_eq_ok.2 ⟨_, ofSpecification_of_query hspec, ?_⟩
  rw [fits_ofQuery (Query.wellFormed_under hw path) hwell, Query.holds_under, Query.holds,
    Clause.allHold_singleton, Clause.holds]

end Filter

end RecordQuery
