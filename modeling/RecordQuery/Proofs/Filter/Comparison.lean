import RecordQuery.Proofs.Filter.Membership
import RecordQuery.Proofs.Value.Comparison

/-!
# Filters that compare

A filter whose one condition is a relation or equality has the verdict of comparing the value with
the operand (`Filter.decides_relation`, `Filter.decides_equality`), so the laws of comparison
connect filters as they do values (`Filter.comparison_coherent`).
-/

namespace RecordQuery.Filter

variable {limit : Nat} {operand v : Value}

/-- The filter of a specification with one condition is accepted and has the verdict on a value. -/
def Decides (limit : Nat) (operator : Operator) (operand v : Value) (verdict : Verdict) : Prop :=
  ∃ filter, ofSpecification limit (.object [(operator.name, operand)]) = .ok filter ∧
    filter.fits v = verdict

/-- The filter of a condition decides as the condition does. -/
theorem decides_holds {operator : Operator} {c : Condition}
    (h : Condition.ofOperand operator [operator.name] operand = .ok c) (hc : c.WellFormed)
    (hv : v.WellFormed) : Decides limit operator operand v (c.holds v) := by
  have hkey : Keyword.ofKey? operator.name = some (.condition operator) :=
    Keyword.ofKey?_name (.condition operator)
  have hclause : Query.clauseOf limit 0 [] operator.name operand = .ok (.condition c) := by
    simp only [Query.clauseOf, hkey]
    exact map_eq_ok.2 ⟨c, h, rfl⟩
  refine ⟨ofQuery [.condition c], ?_, ?_⟩
  · exact map_eq_ok.2 ⟨_, Query.ofFields_eq_ok.2 (.cons hclause .nil), rfl⟩
  · have hw : Clause.WellFormedLevel [.condition c] := ⟨hc, trivial⟩
    rw [fits_ofQuery hw hv, Query.holds, Clause.allHold_singleton, Clause.holds]

/-- The filter of a relation decides it. -/
theorem decides_relation (r : Relation) (hoperand : operand.WellFormed) (hv : v.WellFormed) :
    Decides limit (.relation r) operand v (.ok (v.related r operand)) :=
  have hc : (Condition.relation r operand).WellFormed := hoperand
  decides_holds rfl hc hv

/-- The filter of equality decides strict equality. -/
theorem decides_equality (hoperand : operand.WellFormed) (hv : v.WellFormed) :
    Decides limit (.equality false) operand v (.ok (v.strictEquals operand)) := by
  have hc : (Condition.equality false operand).WellFormed := hoperand
  have h : Decides limit (.equality false) operand v (.ok (false ^^ v.strictEquals operand)) :=
    decides_holds rfl hc hv
  rwa [Bool.false_xor] at h

/-- A filter has one verdict. -/
theorem Decides.unique {operator : Operator} {verdict verdict' : Verdict}
    (h : Decides limit operator operand v verdict)
    (h' : Decides limit operator operand v verdict') : verdict = verdict' := by
  obtain ⟨filter, hfilter, rfl⟩ := h
  obtain ⟨filter', hfilter', rfl⟩ := h'
  rw [hfilter] at hfilter'
  cases hfilter'
  rfl

/-- Comparison is coherent. The other way round it gives the reverse, so that a value is less than
another exactly if that is greater, and at most another exactly if that is at least it. If no wide
integer but an undefined or null value, a truth value or a number is compared, the numbers of the
two values are. Values that are strictly equal and not undefined compare equal, so that where a
filter finds equality the relations that admit it hold. -/
theorem comparison_coherent :
    (∀ a b : Value, b.order? a = (a.order? b).map Ordering.swap) ∧
    (∀ (limit : Nat) (a b : Value), a.WellFormed → b.WellFormed → ∀ r : Relation, ∃ holds : Bool,
      Decides limit (.relation r) b a (.ok holds) ∧
        Decides limit (.relation r.converse) a b (.ok holds)) ∧
    (∀ a b : Value, a.kind ≠ .bigint → b.kind ≠ .bigint →
      (a.kind.comparesAsNumber = true ∨ b.kind.comparesAsNumber = true) →
      a.order? b = a.toNumber.order? b.toNumber) ∧
    (∀ a b : Value, a.strictEquals b = true → a.kind ≠ .undefined → a.order? b = some .eq) ∧
    ∀ (limit : Nat) (a b : Value), a.WellFormed → b.WellFormed → a.kind ≠ .undefined →
      Decides limit (.equality false) b a (.ok true) →
        Decides limit (.relation .lessOrEqual) b a (.ok true) ∧
          Decides limit (.relation .greaterOrEqual) b a (.ok true) := by
  refine ⟨Value.order?_swap, ?_, fun a b _ _ h => Value.order?_eq_of_comparesAsNumber h,
    fun a b => Value.order?_of_strictEquals, ?_⟩
  · intro limit a b ha hb r
    refine ⟨a.related r b, decides_relation r hb ha, ?_⟩
    rw [← Value.related_converse r a b]
    exact decides_relation r.converse ha hb
  · intro limit a b ha hb hdefined h
    have heq : a.strictEquals b = true := Except.ok.inj ((decides_equality hb ha).unique h)
    have hrelated {r : Relation} (hr : r.accepts .eq = true) :
        Decides limit (.relation r) b a (.ok true) := by
      rw [← Value.related_of_strictEquals heq hdefined hr]
      exact decides_relation r hb ha
    exact ⟨hrelated rfl, hrelated rfl⟩

/-- Lists of zeros of different sign are strictly equal, and so both at most and at least each
other; null and a blank text compare as numbers. -/
theorem comparison_coherent_of_zeros :
    let a : Value := .array [.number (.signedZero true)]
    let b : Value := .array [.number (.signedZero false)]
    b.order? a = (a.order? b).map Ordering.swap ∧
    (∃ holds : Bool, Decides 0 (.relation .less) b a (.ok holds) ∧
      Decides 0 (.relation .greater) a b (.ok holds)) ∧
    Value.null.order? (.string " ") = Number.zero.order? (.ofText " ") ∧
    a.order? b = some .eq ∧
    Decides 0 (.relation .lessOrEqual) b a (.ok true) ∧
      Decides 0 (.relation .greaterOrEqual) b a (.ok true) := by
  intro a b
  obtain ⟨hswap, hconverse, hnumber, hequal, hadmits⟩ := comparison_coherent
  have ha : a.WellFormed := ⟨trivial, trivial⟩
  have hb : b.WellFormed := ⟨trivial, trivial⟩
  have hab : a.strictEquals b = true := by decide +kernel
  have hdecides : Decides 0 (.equality false) b a (.ok true) := hab ▸ decides_equality hb ha
  refine ⟨hswap a b, hconverse 0 a b ha hb .less, ?_, hequal a b hab nofun,
    hadmits 0 a b ha hb nofun hdecides⟩
  have hzero : Value.null.toNumber = .zero := by decide +kernel
  rw [hnumber .null (.string " ") nofun nofun (.inl rfl), hzero]
  rfl

end RecordQuery.Filter
