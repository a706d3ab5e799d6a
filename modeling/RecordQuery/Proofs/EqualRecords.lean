import RecordQuery.Proofs.Filter.Meaning
import RecordQuery.Proofs.Query.Verdict
import RecordQuery.Proofs.Ranking.Congruence

/-!
# Equal records

Filters and rankings do not tell equal records apart, which may list their keys in different orders
and have zeros of different signs: `fits_score_compare_congr`. The filter has the verdict of the
query of its specification, which is the same on equal values clause by clause, and the score of a
ranking is a number that equal values share.
-/

namespace RecordQuery

/-- A filter has the same verdict on equal records. -/
theorem Filter.fits_congr {limit : Nat} {spec v v' : Value} {filter : Filter}
    (hspec : spec.WellFormed) (h : Filter.ofSpecification limit spec = .ok filter)
    (hv : v.WellFormed) (hv' : v'.WellFormed) (hvv : (v == v') = true) :
    filter.fits v = filter.fits v' := by
  rcases Filter.ofSpecification_spec h with ⟨_, rfl⟩ | ⟨query, hasks, rfl⟩
  · rfl
  · have hw := (hasks.takenFrom hspec).1
    obtain ⟨_, hrenders, _⟩ := Filter.ofQuery_spec hw
    rw [hrenders.holds v hv, hrenders.holds v' hv']
    exact Clause.allHold_congr hv hv' hvv hw

/-- The scores of equal values are equal numbers. -/
theorem Ranking.score_equals (ranking : Ranking) {a a' b b' : Value} (ha : a.WellFormed)
    (ha' : a'.WellFormed) (hb : b.WellFormed) (hb' : b'.WellFormed) (haa : (a == a') = true)
    (hbb : (b == b') = true) : (ranking.score a b).equals (ranking.score a' b') = true :=
  Number.equals_iff.2
    ⟨ranking.score_congr ha ha' hb hb' haa hbb, ranking.rank?_score a b⟩

/-- Equal records get the same verdict of every filter, error or answer, and the same score and the
same order of every ranking. -/
theorem fits_score_compare_congr {limit : Nat} {spec : Value} {filter : Filter}
    {a a' b b' : Value} (hspec : spec.WellFormed)
    (hfilter : Filter.ofSpecification limit spec = .ok filter) (ranking : Ranking)
    (ha : a.WellFormed) (ha' : a'.WellFormed) (hb : b.WellFormed) (hb' : b'.WellFormed)
    (haa : (a == a') = true) (hbb : (b == b') = true) :
    filter.fits a = filter.fits a' ∧ (ranking.score a b).equals (ranking.score a' b') = true ∧
      ranking.compare a b = ranking.compare a' b' :=
  ⟨Filter.fits_congr hspec hfilter ha ha' haa,
    Ranking.score_equals ranking ha ha' hb hb' haa hbb,
    Ranking.compare_congr ranking ha ha' hb hb' haa hbb⟩

/-- Two records list a signed zero and an object in different orders: a subset condition fails on
both, and they tie with themselves. -/
theorem fits_score_compare_congr_of_reordered :
    let spec : Value := .object [("x", .object [("$sub", .array [.null])])]
    let zero (negative : Bool) : Value := .number (.signedZero negative)
    let a : Value := .object [("x", zero true), ("y", .object [("p", .null), ("q", zero false)])]
    let a' : Value := .object [("y", .object [("q", zero true), ("p", .null)]), ("x", zero false)]
    let ranking : Ranking := .fields [("x", .leaf (.difference .descending))]
    ∃ filter, Filter.ofSpecification 1 spec = .ok filter ∧ filter.fits a = filter.fits a' ∧
      (ranking.score a a').equals (ranking.score a' a) = true ∧
      ranking.compare a a' = ranking.compare a' a := by
  intro spec zero a a' ranking
  have hspec : spec.WellFormed := by
    simp [spec, Value.WellFormed, Value.WellFormedFields, Value.WellFormedItems]
  have ha : a.WellFormed := by simp [a, zero, Value.WellFormed, Value.WellFormedFields]
  have ha' : a'.WellFormed := by simp [a', zero, Value.WellFormed, Value.WellFormedFields]
  have hfilter : Filter.ofSpecification 1 spec = .ok _ := rfl
  refine ⟨_, hfilter, ?_⟩
  exact fits_score_compare_congr hspec hfilter ranking ha ha' ha' ha (by decide) (by decide)

end RecordQuery
