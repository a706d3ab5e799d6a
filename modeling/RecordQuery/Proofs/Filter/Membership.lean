import RecordQuery.Proofs.Filter.Meaning
import RecordQuery.Proofs.Query.Connectives
import RecordQuery.Proofs.Query.Placement

/-!
# Membership and equality

A membership condition looks its value up in a set, which takes not-a-number to be itself, and an
equality condition compares strictly, which does not. The two equalities of values differ in nothing
else (`Value.strictEquals_iff`). So among items without not-a-number there is one equal to a value
exactly if the value is strictly equal to one (`Value.any_beq_eq`), and a membership condition can
be written as equalities one of which is to hold (`Filter.agree_membership`).
-/

namespace RecordQuery

namespace Value

/-- An item without not-a-number is equal to a value exactly if that is strictly equal to it. -/
theorem beq_iff_strictEquals {x v : Value} (hx : x.WellFormed) (hv : v.WellFormed)
    (hnan : x.hasNaN = false) : (x == v) = true ↔ v.strictEquals x = true := by
  rw [strictEquals_iff]
  constructor
  · intro h
    exact ⟨beq_symm hx hv h, hasNaN_eq_false_of_beq hx hv h hnan⟩
  · intro h
    exact beq_symm hv hx h.1

/-- Among items without not-a-number there is one equal to a value exactly if there is one that the
value is strictly equal to. -/
theorem any_beq_eq {items : List Value} {v : Value} (hv : v.WellFormed)
    (hitems : ∀ x ∈ items, x.WellFormed ∧ x.hasNaN = false) :
    items.any (· == v) = items.any (v.strictEquals ·) := by
  rw [Bool.eq_iff_iff, List.any_eq_true, List.any_eq_true]
  refine exists_congr fun x => and_congr_right fun hx => ?_
  exact beq_iff_strictEquals (hitems x hx).1 hv (hitems x hx).2

end Value

/-! ## Queries -/

namespace Query

/-- The queries each of which asks for equality with one of the items. -/
def equalities (items : List Value) : List Query :=
  items.map fun x => [.condition (.equality false x)]

/-- One of the equalities holds of a value that is strictly equal to one of the items. -/
theorem someQueryHolds_equalities (items : List Value) (v : Value) :
    Clause.someQueryHolds Condition.holds (equalities items) v =
      .ok (items.any (v.strictEquals ·)) := by
  induction items with
  | nil => rfl
  | cons x rest ih =>
    rw [equalities, List.map_cons, ← equalities, Clause.someQueryHolds, ih,
      Clause.allHold_singleton, Clause.holds, Condition.holds, Bool.false_xor, List.any_cons]
    cases v.strictEquals x <;> rfl

/-- Equalities with well-formed items are well formed. -/
theorem wellFormed_equalities {items : List Value} (h : ∀ x ∈ items, x.WellFormed) :
    Clause.WellFormedQueries (equalities items) := by
  induction items with
  | nil => exact trivial
  | cons x rest ih =>
    rw [List.forall_mem_cons] at h
    exact ⟨⟨h.1, trivial⟩, ih h.2⟩

/-- The connective of equalities that a membership condition is written with. -/
def membershipConnective (negated : Bool) : Connective := if negated then .nor else .or

/-- A membership condition holds of a value as the connective of the equalities does. -/
theorem holds_membership (negated : Bool) {items : List Value} {v : Value} (hv : v.WellFormed)
    (hitems : ∀ x ∈ items, x.WellFormed ∧ x.hasNaN = false) :
    (Clause.condition (.membership negated items)).holds Condition.holds v =
      (Clause.logic (membershipConnective negated) (equalities items)).holds Condition.holds v := by
  rw [Clause.holds, Condition.holds, Value.any_beq_eq hv hitems]
  cases negated with
  | false =>
    rw [Bool.false_xor]
    exact (someQueryHolds_equalities items v).symm
  | true => exact congrArg (Verdict.negateIf true) (someQueryHolds_equalities items v).symm

/-- A clause on a field holds as it does of the field. -/
theorem holds_field (key : String) (clause : Clause Condition) (v : Value) :
    holds [.field key [clause]] v = clause.holds Condition.holds (v.get key) := by
  rw [holds, Clause.allHold_singleton, Clause.holds, Clause.allHold_singleton]

variable {limit depth : Nat} {path : Path}

/-- Operands that are objects with an equality each make the equalities. -/
theorem ofOperands_equalities (hdepth : depth < limit) (i : Nat) (items : List Value) :
    ofOperands limit depth path i (items.map fun x => .object [("$eq", x)]) =
      .ok (equalities items) := by
  induction items generalizing i with
  | nil => rfl
  | cons x rest ih =>
    have hfirst : memberOf limit depth (path ++ [Text.decimal i]) (.object [("$eq", x)]) =
        .ok [.condition (.equality false x)] :=
      Specification.within_eq_ok_iff.2 ⟨hdepth, rfl⟩
    rw [List.map_cons, ofOperands_cons, hfirst, ih]
    rfl

/-- The connective of a membership condition makes one clause of the equalities. -/
theorem clauseOf_equalities (hdepth : depth < limit) (negated : Bool) {items : List Value}
    (hne : items ≠ []) :
    clauseOf limit depth path (membershipConnective negated).name
        (.array (items.map fun x => .object [("$eq", x)])) =
      .ok (.logic (membershipConnective negated) (equalities items)) := by
  have hkey : Keyword.ofKey? (membershipConnective negated).name =
      some (.logic (membershipConnective negated)) :=
    Keyword.ofKey?_name (.logic (membershipConnective negated))
  obtain ⟨x, rest, rfl⟩ := List.exists_cons_of_ne_nil hne
  simp only [clauseOf, hkey]
  exact map_eq_ok.2 ⟨_, ofOperands_equalities hdepth 0 (x :: rest), rfl⟩

/-- A field with one condition or connective on it makes one clause. -/
theorem ofSpecification_field {key word : String} {operand : Value} {clause : Clause Condition}
    (hkey : Keyword.ofKey? key = none) (hlimit : 1 ≤ limit)
    (h : clauseOf limit 1 [key] word operand = .ok clause) :
    ofSpecification limit (.object [(key, .object [(word, operand)])]) =
      .ok [.field key [clause]] := by
  have hoperand : ofOperand limit 0 [key] (.object [(word, operand)]) = .ok [clause] :=
    Specification.within_eq_ok_iff.2 ⟨hlimit, ofFields_eq_ok.2 (.cons h .nil)⟩
  refine ofFields_eq_ok.2 (.cons ?_ .nil)
  simp only [clauseOf, hkey]
  exact map_eq_ok.2 ⟨[clause], hoperand, rfl⟩

end Query

/-! ## Filters -/

namespace Filter

/-- The filter of a well-formed query has the verdict of the query. -/
theorem fits_ofQuery {query : Query} (hw : Clause.WellFormedLevel query) {record : Value}
    (hrecord : record.WellFormed) : (ofQuery query).fits record = query.holds record := by
  obtain ⟨level, hrenders, _⟩ := ofQuery_spec hw
  exact hrenders.holds record hrecord

/-- Both specifications are accepted, and their filters have the same verdict on every record. -/
def Agree (limit : Nat) (spec spec' : Value) : Prop :=
  ∃ filter filter', ofSpecification limit spec = .ok filter ∧
    ofSpecification limit spec' = .ok filter' ∧
    ∀ record : Value, record.WellFormed → filter.fits record = filter'.fits record

/-- Specifications agree if well-formed queries of theirs hold alike. -/
theorem agree_of_holds {limit : Nat} {fields fields' : List (String × Value)} {query query' : Query}
    (h : Query.ofSpecification limit (.object fields) = .ok query)
    (h' : Query.ofSpecification limit (.object fields') = .ok query')
    (hw : Clause.WellFormedLevel query) (hw' : Clause.WellFormedLevel query')
    (hholds : ∀ record : Value, record.WellFormed → query.holds record = query'.holds record) :
    Agree limit (.object fields) (.object fields') := by
  refine ⟨ofQuery query, ofQuery query', map_eq_ok.2 ⟨query, h, rfl⟩, map_eq_ok.2 ⟨query', h', rfl⟩,
    fun record hrecord => ?_⟩
  rw [fits_ofQuery hw hrecord, fits_ofQuery hw' hrecord, hholds record hrecord]

/-- A membership condition on a field agrees with the connective of the equalities. -/
theorem agree_membership {limit : Nat} {key : String} {items : List Value} (hlimit : 2 ≤ limit)
    (hkey : Keyword.ofKey? key = none) (hne : items ≠ [])
    (hitems : ∀ x ∈ items, x.WellFormed ∧ x.hasNaN = false) (negated : Bool) :
    Agree limit (.object [(key, .object [((Operator.membership negated).name, .array items)])])
      (.object [(key, .object [((Query.membershipConnective negated).name,
        .array (items.map fun x => .object [("$eq", x)]))])]) := by
  have hwell : ∀ x ∈ items, x.WellFormed := fun x hx => (hitems x hx).1
  have hequalities := Query.wellFormed_equalities hwell
  have hmembership : Query.clauseOf limit 1 [key] (Operator.membership negated).name
      (.array items) = .ok (.condition (.membership negated items)) := by
    have hword : Keyword.ofKey? (Operator.membership negated).name =
        some (.condition (.membership negated)) :=
      Keyword.ofKey?_name (.condition (.membership negated))
    simp only [Query.clauseOf, hword]
    rfl
  refine agree_of_holds (Query.ofSpecification_field hkey (by omega) hmembership)
    (Query.ofSpecification_field hkey (by omega) (Query.clauseOf_equalities hlimit negated hne))
    ⟨⟨hwell, trivial⟩, trivial⟩ ?_ fun record hrecord => ?_
  · refine ⟨⟨⟨?_, hequalities⟩, trivial⟩, trivial⟩
    exact mt List.map_eq_nil_iff.1 hne
  · rw [Query.holds_field, Query.holds_field,
      Query.holds_membership negated (Value.wellFormed_get hrecord key) hitems]

/-- Strict equality is equality without not-a-number. So a field is among the items of a list, in
which not-a-number does not occur at any depth, if one of the equalities with the items holds of it,
and it is not among them if none does; written out like that, the specification has two levels. -/
theorem strictEquals_iff_and_agree :
    (∀ a b : Value, a.strictEquals b = true ↔ (a == b) = true ∧ a.hasNaN = false) ∧
    ∀ (limit : Nat) (key : String) (items : List Value), 2 ≤ limit → Keyword.ofKey? key = none →
      items ≠ [] → (∀ x ∈ items, x.WellFormed ∧ x.hasNaN = false) →
      let field (word : String) (operand : Value) : Value :=
        .object [(key, .object [(word, operand)])]
      let equalities : Value := .array (items.map fun x => .object [("$eq", x)])
      Agree limit (field "$in" (.array items)) (field "$or" equalities) ∧
        Agree limit (field "$nin" (.array items)) (field "$nor" equalities) := by
  refine ⟨fun a b => Value.strictEquals_iff, ?_⟩
  intro limit key items hlimit hkey hne hitems field equalities
  exact ⟨agree_membership hlimit hkey hne hitems false,
    agree_membership hlimit hkey hne hitems true⟩

/-- An object, a negative zero and an undefined item. -/
theorem strictEquals_iff_and_agree_of_mixed :
    let field (word : String) (operand : Value) : Value :=
      .object [("size", .object [(word, operand)])]
    let nested : Value := .object [("a", .array [.null, .string "x"])]
    let items : List Value := [nested, .number (.signedZero true), .undefined]
    let equalities : Value := .array
      [.object [("$eq", nested)], .object [("$eq", .number (.signedZero true))],
        .object [("$eq", .undefined)]]
    Agree 2 (field "$in" (.array items)) (field "$or" equalities) ∧
      Agree 2 (field "$nin" (.array items)) (field "$nor" equalities) := by
  intro field nested items equalities
  have hnumber : (Number.signedZero true).rank?.isNone = false := rfl
  have hitems : ∀ x ∈ items, x.WellFormed ∧ x.hasNaN = false := by
    simp [items, nested, Value.WellFormed, Value.WellFormedFields, Value.WellFormedItems,
      Value.hasNaN, Value.itemsHaveNaN, Value.fieldsHaveNaN, hnumber]
  have hne : items ≠ [] := List.cons_ne_nil _ _
  exact strictEquals_iff_and_agree.2 2 "size" items (Nat.le_refl 2) rfl hne hitems

end Filter

end RecordQuery
