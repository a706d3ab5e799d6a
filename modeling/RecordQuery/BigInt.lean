import RecordQuery.Number.Basic
import RecordQuery.Text.Numeral

/-!
# Wide integers

A `BigInt` is an integer of 128 signed bits. No operation computes with one: it is read, compared,
written, and rounded to a number.
-/

namespace RecordQuery

/-- The magnitude of the least integer of 128 signed bits. -/
def BigInt.bound : Nat := Nat.pow 2 127

/-- An integer of 128 signed bits. -/
structure BigInt where
  /-- The integer. -/
  val : Int
  /-- It is not below the least one. -/
  lower : -(BigInt.bound : Int) ≤ val
  /-- It is not above the greatest one. -/
  upper : val < BigInt.bound
deriving DecidableEq

namespace BigInt

/-- An integer as a wide integer, if it is in range. -/
def ofInt? (n : Int) : Option BigInt :=
  if h : -(bound : Int) ≤ n ∧ n < bound then some ⟨n, h.1, h.2⟩ else none

/-- The wide integer that a decimal text without blanks denotes; a sign may precede the digits. -/
def read? (cs : List Char) : Option BigInt := (Text.readInt? cs).bind ofInt?

/-- The decimal text. -/
def text (n : BigInt) : String := Text.integer n.val

/-- The nearest number. -/
def toNumber (n : BigInt) : Number := Number.ofInt n.val

end BigInt

end RecordQuery
