import RecordQuery.Value.Coercion

/-!
# Order

Relational comparison reduces both values to primitives first: texts stay texts, and so do arrays,
objects and patterns through their text; wide integers stay what they are; all else becomes a
number. Two texts compare by code points. A text beside a wide integer must itself be one.
Everything else compares as numbers, and not-a-number is unordered.
-/

namespace RecordQuery

/-- What a value is compared as. -/
inductive Primitive where
  | text (s : String)
  | number (n : Number)
  | bigint (n : BigInt)

namespace Primitive

/-- What the value is compared as. -/
def ofValue (v : Value) : Primitive :=
  match v with
  | .string s => .text s
  | .array _ => .text v.text
  | .object _ => .text v.text
  | .regex _ => .text v.text
  | .bigint n => .bigint n
  | _ => .number v.toNumber

/-- The number that a primitive stands for. -/
def toNumber : Primitive → Number
  | text s => .ofText s
  | number n => n
  | bigint n => n.toNumber

/-- The wide integer that a text denotes; blanks at its ends are dropped. -/
def bigint? (s : String) : Option BigInt := BigInt.read? (Text.trim s.toList)

/-- The order of two primitives, if they have one. -/
def order? : Primitive → Primitive → Option Ordering
  | text a, text b => some (compare a b)
  | bigint a, bigint b => some (compare a.val b.val)
  | bigint a, text b => (bigint? b).map fun b => compare a.val b.val
  | text a, bigint b => (bigint? a).map fun a => compare a.val b.val
  | a, b => a.toNumber.order? b.toNumber

end Primitive

/-- The order of two values, if they have one. -/
def Value.order? (a b : Value) : Option Ordering :=
  (Primitive.ofValue a).order? (Primitive.ofValue b)

end RecordQuery
