import RecordQuery.Filter.Basic
import RecordQuery.Proofs.Filter.Clause
import RecordQuery.Query.Meaning

/-!
# What filters mean

A filter holds of a record what the query of its specification holds of it, error or answer
(`fits_eq_holds`): whatever slots and sets the conditions before have left behind, no condition is
judged otherwise than on its own operand. The module also says what query stands behind a
specification (`Asks`), for the bare values too.
-/

namespace RecordQuery

open Source

/-- The specification asks the query of a record. -/
inductive Specification.Asks (limit : Nat) : Value → Query → Prop
  | query {spec : Value} {query : Query} (h : Query.ofSpecification limit spec = .ok query) :
    Asks limit spec query
  | pattern (p : Pattern) : Asks limit (.regex p) [.condition (.pattern false p)]
  | equality {spec : Value} (hdefined : spec ≠ .undefined) (hregex : ∀ p, spec ≠ .regex p)
    (harray : ∀ items, spec ≠ .array items) (hobject : ∀ fields, spec ≠ .object fields) :
    Asks limit spec [.condition (.equality false spec)]

/-- A query is taken from the specification that asks it. -/
theorem Specification.Asks.takenFrom {limit : Nat} {spec : Value} {query : Query}
    (h : Asks limit spec query) (hw : spec.WellFormed) : Query.TakenFrom spec.texts query := by
  cases h with
  | query h => exact Query.ofSpecification_spec hw h
  | pattern p => exact Query.takenFrom_condition trivial (List.nil_subset _)
  | equality => exact Query.takenFrom_condition hw (Value.ownTexts_subset spec)

namespace Filter

/-- A filter is made of the query that its specification asks, and of none if there is no
specification. -/
theorem ofSpecification_spec {limit : Nat} {spec : Value} {filter : Filter}
    (h : ofSpecification limit spec = .ok filter) :
    (spec = .undefined ∧ filter = ⟨none, .empty⟩) ∨
      ∃ query, Specification.Asks limit spec query ∧ filter = ofQuery query := by
  cases spec with
  | undefined =>
    cases h
    exact .inl ⟨rfl, rfl⟩
  | regex p =>
    cases h
    exact .inr ⟨_, .pattern p, rfl⟩
  | object | array =>
    obtain ⟨query, hquery, rfl⟩ := map_eq_ok.1 h
    exact .inr ⟨query, .query hquery, rfl⟩
  | null | bool | number | bigint | string =>
    cases h
    exact .inr ⟨_, .equality nofun nofun nofun nofun, rfl⟩

/-- The expression of the filter of a query is the text of a level, which is judged as the query is
in the context of the filter, and the filter has the verdict of the query. -/
theorem ofQuery_spec {query : Query} (hw : Clause.WellFormedLevel query) :
    ∃ level, Context.Renders .empty (ofQuery query).context [] (Clause.levelConditions [] query)
        (ofQuery query).fits query.holds level ∧
      LevelSpells level (ofQuery query).expression := by
  obtain ⟨levels, hrenders, htexts⟩ := Clause.compileAll_spec Context.valid_empty [] hw
  exact ⟨_, Clause.renders_queryLevel hrenders, levelSpells_queryLevel htexts⟩

/-- A filter fits a record as the query of its specification holds of it. -/
theorem fits_eq_holds {limit : Nat} {spec : Value} {filter : Filter} (hspec : spec.WellFormed)
    (hkind : spec.kind = .object ∨ spec.kind = .array)
    (h : ofSpecification limit spec = .ok filter) :
    ∃ query, Query.ofSpecification limit spec = .ok query ∧
      ∀ record : Value, record.WellFormed → filter.fits record = query.holds record := by
  have hmap : ∃ query, Query.ofSpecification limit spec = .ok query ∧ ofQuery query = filter := by
    cases spec with
    | object | array => exact map_eq_ok.1 h
    | undefined | null | bool | number | bigint | string | regex =>
      rcases hkind with h | h <;> cases h
  obtain ⟨query, hquery, rfl⟩ := hmap
  obtain ⟨level, hrenders, _⟩ := ofQuery_spec (Query.ofSpecification_spec hspec hquery).1
  exact ⟨query, hquery, hrenders.holds⟩

/-- Two conditions whose operands differ in the sign of zero share a set, and a third keeps an
object in a slot. -/
theorem fits_eq_holds_of_shared_set :
    let spec : Value := .object
      [("a", .object [("$in", .array [.number (.signedZero true)])]),
        ("b", .object [("$nin", .array [.number (.signedZero false)]),
          ("$eq", .object [("c", .null)])])]
    ∃ filter, ofSpecification 1 spec = .ok filter ∧
      ∃ query, Query.ofSpecification 1 spec = .ok query ∧
        ∀ record : Value, record.WellFormed → filter.fits record = query.holds record := by
  intro spec
  have hspec : spec.WellFormed := by
    simp [spec, Value.WellFormed, Value.WellFormedFields, Value.WellFormedItems]
  refine ⟨_, rfl, ?_⟩
  exact fits_eq_holds hspec (.inl rfl) rfl

end Filter

end RecordQuery
