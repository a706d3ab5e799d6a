import RecordQuery.Value.Basic

/-!
# Equality

Two equalities compare arrays item by item and objects field by field in any order. SameValueZero,
which `==` stands for, lets not-a-number equal itself; it decides membership in sets. Strict
equality differs from it on numbers only.
-/

namespace RecordQuery.Value

mutual
/-- SameValueZero equality. -/
def same : Value → Value → Bool
  | undefined, undefined => true
  | null, null => true
  | bool a, bool b => a == b
  | number a, number b => a.sameValueZero b
  | bigint a, bigint b => a == b
  | string a, string b => a == b
  | regex a, regex b => a == b
  | array xs, array ys => sameItems xs ys
  | object xs, object ys => xs.length == ys.length && sameFields xs ys
  | _, _ => false

/-- SameValueZero equality of items in order. -/
def sameItems : List Value → List Value → Bool
  | [], [] => true
  | x :: xs, y :: ys => x.same y && sameItems xs ys
  | _, _ => false

/-- Every field has an equal one under its key among the others. -/
def sameFields : List (String × Value) → List (String × Value) → Bool
  | [], _ => true
  | (key, v) :: rest, others =>
    (match others.lookup key with
      | some w => v.same w
      | none => false) && sameFields rest others
end

instance : BEq Value := ⟨same⟩

mutual
/-- Strict equality. -/
def strictEquals : Value → Value → Bool
  | number a, number b => a.equals b
  | array xs, array ys => strictItems xs ys
  | object xs, object ys => xs.length == ys.length && strictFields xs ys
  | a, b => a.same b

/-- Strict equality of items in order. -/
def strictItems : List Value → List Value → Bool
  | [], [] => true
  | x :: xs, y :: ys => x.strictEquals y && strictItems xs ys
  | _, _ => false

/-- Every field has a strictly equal one under its key among the others. -/
def strictFields : List (String × Value) → List (String × Value) → Bool
  | [], _ => true
  | (key, v) :: rest, others =>
    (match others.lookup key with
      | some w => v.strictEquals w
      | none => false) && strictFields rest others
end

end RecordQuery.Value
