import RecordQuery.Number.Basic
import RecordQuery.Number.Layout

/-!
# The text of a number

A number is written with the fewest digits that identify it, positionally from `10 ^ -6` up to
but not including `10 ^ 21` and otherwise with a signed exponent. Both zeros are written `0`.
-/

namespace RecordQuery.Number

/-- The format of a number in text. -/
def textLayout : Layout where
  lowest := -6
  highest := 20
  pointZero := false
  tie := .up

/-- The text of a number. -/
def text : Number → String
  | .nan => "NaN"
  | .infinite negative => if negative then "-Infinity" else "Infinity"
  | .finite negative quanta _ => if quanta = 0 then "0" else textLayout.write negative quanta

end RecordQuery.Number
