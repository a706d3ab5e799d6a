import RecordQuery.Proofs.Value.Congruence
import RecordQuery.Proofs.Value.Order
import RecordQuery.Query.Verdict

/-!
# Relational comparison

Comparing the other way round reverses the answer, so a relation holds of two values exactly if its
converse holds of them the other way round (`Value.related_converse`). Beside a value that is
compared as a number every value is compared as the number that it stands for
(`Value.order?_eq_of_comparesAsNumber`), and a value that is strictly equal to another compares
equal to it, unless it is undefined and so has no order (`Value.order?_of_strictEquals`).
-/

namespace RecordQuery

/-! ## Relations -/

namespace Relation

/-- The relation that holds the other way round. -/
def converse : Relation → Relation
  | greater => less
  | greaterOrEqual => lessOrEqual
  | less => greater
  | lessOrEqual => greaterOrEqual

/-- The converse accepts the reverse of what the relation accepts. -/
theorem accepts_converse (r : Relation) (o : Ordering) :
    r.converse.accepts o.swap = r.accepts o := by
  cases r <;> cases o <;> rfl

end Relation

/-- A relation holds of two values as its converse does the other way round. -/
theorem Value.related_converse (r : Relation) (a b : Value) :
    b.related r.converse a = a.related r b := by
  rw [related, related, order?_swap a b]
  cases a.order? b with
  | none => rfl
  | some o => exact r.accepts_converse o

/-! ## Comparison as numbers -/

/-- Values of the kind are compared as the numbers that they stand for. -/
def Kind.comparesAsNumber : Kind → Bool
  | undefined => true
  | null => true
  | boolean => true
  | number => true
  | _ => false

namespace Value

variable {a b : Value}

/-- The number of the primitive that a value is compared as is the number of the value. -/
theorem toNumber_ofValue (v : Value) : (Primitive.ofValue v).toNumber = v.toNumber := by
  cases v with
  | object => exact (rfl : Number.ofText "[object Object]" = .nan)
  | undefined | null | bool | number | bigint | string | regex | array => rfl

/-- A value of a kind that is compared as a number is that number. -/
theorem ofValue_eq_number (h : a.kind.comparesAsNumber = true) :
    Primitive.ofValue a = .number a.toNumber := by
  cases a with
  | undefined | null | bool | number => rfl
  | bigint | string | regex | array | object => cases h

/-- Beside a number everything compares as a number. -/
theorem order?_eq_order?_toNumber (h : a.kind.comparesAsNumber = true) :
    a.order? b = a.toNumber.order? b.toNumber := by
  rw [order?, ← toNumber_ofValue b, ofValue_eq_number h]
  rfl

/-- The values compare as the numbers that they stand for if one of them is compared as a number. -/
theorem order?_eq_of_comparesAsNumber
    (h : a.kind.comparesAsNumber = true ∨ b.kind.comparesAsNumber = true) :
    a.order? b = a.toNumber.order? b.toNumber := by
  rcases h with h | h
  · exact order?_eq_order?_toNumber h
  · rw [order?_swap b a, Number.order?_swap b.toNumber, order?_eq_order?_toNumber h]

/-! ## Equal values -/

/-- The same primitives compare equal, unless they have no order. -/
theorem SamePrimitive.order?_eq {p q : Primitive} (h : SamePrimitive p q)
    (hp : p.family ≠ .unordered) : p.order? q = some .eq := by
  cases h with
  | text => exact congrArg some Std.ReflCmp.compare_self
  | bigint => exact congrArg some Std.ReflCmp.compare_self
  | @number n m h =>
    have hm := Number.sameValueZero_iff.1 h
    rw [Primitive.family_number] at hp
    simp only [Primitive.order?, Primitive.toNumber]
    cases hn : n.rank? with
    | none => exact absurd (by rw [hn]; rfl) hp
    | some r =>
      rw [Number.order?_of_rank? hn (hm.symm.trans hn)]
      exact congrArg some Std.ReflCmp.compare_self

/-- Every number but not-a-number is ordered. -/
theorem family_number_ne_unordered {n : Number} (h : n ≠ .nan) :
    (Primitive.number n).family ≠ .unordered := by
  cases n with
  | nan => exact absurd rfl h
  | infinite | finite => exact nofun

/-- Values without not-a-number are ordered, the undefined value apart. -/
theorem family_ne_unordered (hnan : a.hasNaN = false) (ha : a.kind ≠ .undefined) :
    a.family ≠ .unordered := by
  cases a with
  | undefined => exact absurd rfl ha
  | number n =>
    refine family_number_ne_unordered fun h => ?_
    rw [hasNaN, show n = .nan from h] at hnan
    cases hnan
  | null | bool =>
    rw [family, ofValue_eq_number rfl, toNumber]
    exact family_number_ne_unordered (Number.ofQuanta_ne_nan _ _ _)
  | bigint | string | regex | array | object =>
    intro h
    cases h

/-- Strictly equal values compare equal, unless they are undefined. -/
theorem order?_of_strictEquals (h : a.strictEquals b = true) (ha : a.kind ≠ .undefined) :
    a.order? b = some .eq := by
  obtain ⟨hsame, hnan⟩ := strictEquals_iff.1 h
  exact (samePrimitive_ofValue hsame).order?_eq (family_ne_unordered hnan ha)

/-- A relation that admits equality holds of strictly equal values, unless they are undefined. -/
theorem related_of_strictEquals (h : a.strictEquals b = true) (ha : a.kind ≠ .undefined)
    {r : Relation} (hr : r.accepts .eq = true) : a.related r b = true := by
  rw [related, order?_of_strictEquals h ha]
  exact hr

end Value

end RecordQuery
