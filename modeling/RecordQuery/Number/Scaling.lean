import RecordQuery.Number.Basic

/-!
# Scaling by powers of ten

A significand times a power of ten in double arithmetic: the significand and the power are each
rounded to a double, and so is their product or quotient. The answer is near the exact value but
need not be the double nearest to it, as `Number.ofDecimal` is. Where no rounding on the way loses
anything, as with a significand below `2 ^ 53` and no more than 22 places, the two agree.
-/

namespace RecordQuery.Number

/-- The greatest exponent of ten whose power is within the range of doubles. -/
def maxPower : Nat := 308

/-- The double nearest to `10 ^ k`, in quanta. -/
def powerQuanta (k : Nat) : Nat := nearestQuanta (Nat.pow 10 k * quantaPerOne) 1

/-- A magnitude in quanta divided by the double nearest to `10 ^ k`. -/
def divideByPower (quanta k : Nat) : Nat := nearestQuanta (quanta * quantaPerOne) (powerQuanta k)

/-- A significand scaled by a power of ten, infinite where that overflows. A power too large to
divide by is divided by in two steps; two such powers leave nothing of a significand of 64 bits. -/
def ofScaled (negative : Bool) (significand : Nat) (exponent : Int) : Number :=
  if significand = 0 then signedZero negative
  else if maxPower < exponent then .infinite negative
  else
    let quanta := nearestQuanta (significand * quantaPerOne) 1
    if 0 ≤ exponent then
      ofQuanta negative (quanta * powerQuanta exponent.toNat) quantaPerOne
    else
      let places := (-exponent).toNat
      let near := divideByPower quanta (min places maxPower)
      ofQuanta negative (divideByPower near (min (places - maxPower) maxPower)) 1

end RecordQuery.Number
