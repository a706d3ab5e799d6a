import RecordQuery.Json.Basic
import RecordQuery.Number.Reading
import RecordQuery.Number.Scaling

/-!
# JSON numerals

A number in a JSON text has no superfluous zero and no plus sign. Without a point and an exponent
it is an integer where 64 bits hold it. Any other number is a double: as many of its leading digits
as 64 bits hold are scaled by a power of ten, and a number beyond the range of doubles is refused.
-/

namespace RecordQuery.Json

/-! ## Parts -/

/-- The whole part of a number: a zero, or digits that do not begin with one. -/
def spanWhole : List Char → List Char × List Char
  | '0' :: rest => (['0'], rest)
  | cs => Number.spanDigits cs

/-- The fraction of a number without its point, if there is none or it has digits. -/
def spanFraction? : List Char → Option (List Char × List Char)
  | '.' :: rest =>
    let (digits, rest) := Number.spanDigits rest
    if digits.isEmpty then none else some (digits, rest)
  | cs => some ([], cs)

/-- The exponent of a number, if there is none or it has digits. -/
def spanExponent? : List Char → Option (Option Int × List Char)
  | [] => some (none, [])
  | mark :: rest =>
    if mark = 'e' ∨ mark = 'E' then
      let (negative, unsigned) := Number.spanSign rest
      let (digits, rest) := Number.spanDigits unsigned
      if digits.isEmpty then none
      else some (some (Number.signed negative (Number.digitsValue digits)), rest)
    else some (none, mark :: rest)

/-! ## Values -/

/-- Digits read after `start` for as long as 64 bits hold the number, with the digits left over. -/
def takeSignificand (start : Nat) : List Char → Nat × List Char
  | [] => (start, [])
  | c :: rest =>
    let next := 10 * start + (c.toNat - '0'.toNat)
    if next < Nat.pow 2 64 then takeSignificand next rest else (start, c :: rest)

/-- The double that the parts of a number denote, unless it is out of range. A digit left over
from the whole part still counts as a place; one left over from the fraction does not. -/
def doubleNumeral (negative : Bool) (whole fraction : List Char) (exponent : Int) :
    Option Numeral :=
  let (significand, wholeLeft) := takeSignificand 0 whole
  let (significand, fractionLeft) := takeSignificand significand fraction
  let places : Int := fraction.length - fractionLeft.length
  match Number.ofScaled negative significand (exponent + wholeLeft.length - places) with
  | .infinite _ => none
  | value => some (.double value)

/-- What the digits of an integer denote: an integer where 64 bits hold it, and otherwise a double.
A negative zero is a double. -/
def integerNumeral (negative : Bool) (digits : List Char) : Option Numeral :=
  let n := Number.digitsValue digits
  if !negative && n < Nat.pow 2 64 then some (.unsigned (UInt64.ofNat n))
  else if negative && 0 < n && n ≤ Nat.pow 2 63 then some (.signed (Int64.ofInt (-n)))
  else doubleNumeral negative digits [] 0

/-- A number behind its sign. -/
def readUnsigned (negative : Bool) (cs : List Char) : Option (Numeral × List Char) := do
  let (whole, rest) := spanWhole cs
  if whole.isEmpty then none
  let (fraction, rest) ← spanFraction? rest
  let (exponent, rest) ← spanExponent? rest
  let numeral ← if fraction.isEmpty && exponent.isNone then integerNumeral negative whole
    else doubleNumeral negative whole fraction (exponent.getD 0)
  return (numeral, rest)

/-- A number. -/
def readNumber : List Char → Option (Numeral × List Char)
  | '-' :: rest => readUnsigned true rest
  | cs => readUnsigned false cs

end RecordQuery.Json
