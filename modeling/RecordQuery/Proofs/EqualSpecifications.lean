import RecordQuery.Proofs.Filter.Meaning
import RecordQuery.Proofs.Query.Reordering

/-!
# Equal specifications

Specifications may list the keys of their objects in different orders and give zeros different
signs. The filter of either is accepted if that of the other is, and where neither verdict on a
record is an error the two are the same (`fits_eq_of_equal_specifications`). More cannot be said:
keys in another order are looked at in another order, and what decides first hides the error of
what comes after it.
-/

namespace RecordQuery.Filter

/-- Equal specifications are accepted alike, and their filters do not contradict each other on any
record. -/
theorem ofSpecification_alike (limit : Nat) {spec spec' : Value} (hw : spec.WellFormed)
    (hw' : spec'.WellFormed) (h : (spec == spec') = true) :
    Concur (fun filter filter' : Filter => ∀ record : Value, record.WellFormed →
        (filter.fits record).Compatible (filter'.fits record))
      (ofSpecification limit spec) (ofSpecification limit spec') := by
  -- filters have the verdicts of their queries, so compatible queries make compatible filters
  have hquery : ∀ {query query' : Query}, Clause.WellFormedLevel query →
      Clause.WellFormedLevel query' → query.Compatible query' →
      ∀ record : Value, record.WellFormed →
        ((ofQuery query).fits record).Compatible ((ofQuery query').fits record) := by
    intro query query' hlevel hlevel' hcompatible record hrecord
    obtain ⟨_, hrenders, _⟩ := ofQuery_spec hlevel
    obtain ⟨_, hrenders', _⟩ := ofQuery_spec hlevel'
    rw [hrenders.holds record hrecord, hrenders'.holds record hrecord]
    exact hcompatible record hrecord
  have hspecification := Query.ofSpecification_alike limit hw hw' h
  cases Value.beq_iff_same.1 h with
  | undefined => exact .accepted fun record _ => .refl _
  | null | bool | number | bigint | string =>
    exact .accepted (hquery ⟨hw, trivial⟩ ⟨hw', trivial⟩ (Query.compatible_equality hw hw' h))
  | regex p => exact .accepted fun record _ => .refl _
  | object | array =>
    refine Concur.map (hspecification.mono fun query query' hok hok' hcompatible => ?_)
      fun query query' hfits => hfits
    have hlevel := (Query.ofSpecification_spec hw hok).1
    have hlevel' := (Query.ofSpecification_spec hw' hok').1
    exact hquery hlevel hlevel' hcompatible

/-- Of two equal specifications, the one is accepted exactly if the other is, and then their filters
give the same answer on every record on which neither of them fails. -/
theorem fits_eq_of_equal_specifications (limit : Nat) {spec spec' : Value} (hw : spec.WellFormed)
    (hw' : spec'.WellFormed) (h : (spec == spec') = true) :
    ((∃ filter, ofSpecification limit spec = .ok filter) ↔
      ∃ filter', ofSpecification limit spec' = .ok filter') ∧
    ∀ filter filter', ofSpecification limit spec = .ok filter →
      ofSpecification limit spec' = .ok filter' →
      ∀ record : Value, record.WellFormed → ∀ b b', filter.fits record = .ok b →
        filter'.fits record = .ok b' → b = b' := by
  have halike := ofSpecification_alike limit hw hw' h
  refine ⟨halike.exists_ok_iff, ?_⟩
  intro filter filter' hfilter hfilter' record hrecord b b' hb hb'
  exact halike.related hfilter hfilter' record hrecord b b' hb hb'

/-- Two specifications list the fields of a negated query in different orders, with zeros of
different signs. -/
theorem fits_eq_of_equal_specifications_of_reordered :
    let zero (negative : Bool) : Value := .number (.signedZero negative)
    let inner : Value := .object [("b", .object [("$sub", .array [.null])])]
    let spec : Value := .object
      [("$nor", .array [.object [("a", zero true), ("$not", inner)], .null])]
    let spec' : Value := .object
      [("$nor", .array [.object [("$not", inner), ("a", zero false)], .null])]
    ((∃ filter, ofSpecification 3 spec = .ok filter) ↔
      ∃ filter', ofSpecification 3 spec' = .ok filter') ∧
    ∀ filter filter', ofSpecification 3 spec = .ok filter →
      ofSpecification 3 spec' = .ok filter' →
      ∀ record : Value, record.WellFormed → ∀ b b', filter.fits record = .ok b →
        filter'.fits record = .ok b' → b = b' := by
  intro zero inner spec spec'
  have hw : spec.WellFormed := by
    simp [spec, inner, zero, Value.WellFormed, Value.WellFormedFields, Value.WellFormedItems]
  have hw' : spec'.WellFormed := by
    simp [spec', inner, zero, Value.WellFormed, Value.WellFormedFields, Value.WellFormedItems]
  exact fits_eq_of_equal_specifications 3 hw hw' (by decide)

/-- The error of a condition shows only where no condition before it has failed. -/
example :
    let subset : Value := .object [("$sub", .array [])]
    let record : Value := .object [("a", .null), ("b", .bool true)]
    let outcome (spec : Value) := (ofSpecification 1 spec).toOption.map fun filter =>
      (filter.fits record).toOption
    outcome (.object [("a", subset), ("b", .null)]) = some none ∧
      outcome (.object [("b", .null), ("a", subset)]) = some (some false) := by
  exact ⟨rfl, rfl⟩

end RecordQuery.Filter
