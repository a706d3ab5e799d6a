import RecordQuery.Number.Rounding

/-!
# Numbers

A `Number` is a binary64 value held exactly: not a number, an infinity, or a signed magnitude in
quanta of `2 ^ -1074`. Arithmetic is exact on the integers and rounds once, and comparison is the
comparison of integers: `rank?` places every number but not-a-number on one integer line, with
the infinities just beyond the finite values. Two numbers compare equal when their ranks exist and
agree, and are the same under SameValueZero when their ranks agree, existing or not.
-/

namespace RecordQuery

/-- A double-precision number. -/
inductive Number where
  /-- Not a number. -/
  | nan
  /-- An infinity with its sign. -/
  | infinite (negative : Bool)
  /-- A finite value; zero keeps its sign. -/
  | finite (negative : Bool) (quanta : Nat) (representable : Number.Representable quanta)
deriving DecidableEq

namespace Number

/-- A signed integer from its sign and magnitude. -/
def signed (negative : Bool) (magnitude : Nat) : Int :=
  if negative then -(magnitude : Int) else magnitude

/-- Zero with the given sign. -/
def signedZero (negative : Bool) : Number := .finite negative 0 (by decide +kernel)

/-- Positive zero. -/
def zero : Number := signedZero false

/-- The double nearest to the quotient `num / den` of quanta, infinite where that overflows. -/
def ofQuanta (negative : Bool) (num den : Nat) : Number :=
  if h : nearestQuanta num den < overflowQuanta then
    .finite negative (nearestQuanta num den) (representable_nearestQuanta h)
  else .infinite negative

/-- The double nearest to an integer. -/
def ofInt (n : Int) : Number := ofQuanta (n < 0) (n.natAbs * quantaPerOne) 1

/-- The double nearest to a natural number. -/
def ofNat (n : Nat) : Number := ofQuanta false (n * quantaPerOne) 1

/-- The double nearest to `coefficient * 10 ^ exponent`. Outside the first and last few hundred
powers of ten the answer is an infinity or a zero, and no power is computed. -/
def ofDecimal (negative : Bool) (coefficient : Nat) (exponent : Int) : Number :=
  if coefficient = 0 then signedZero negative
  else if 400 < exponent then .infinite negative
  else if exponent + coefficient.log2 < -400 then signedZero negative
  else
    ofQuanta negative (coefficient * Nat.pow 10 exponent.toNat * quantaPerOne)
      (Nat.pow 10 (-exponent).toNat)

/-! ## Order and equality -/

/-- The place of a number on the integer line: its signed quanta, or just beyond every finite
value for an infinity. Not-a-number has none. -/
def rank? : Number → Option Int
  | .nan => none
  | .infinite negative => some (signed negative overflowQuanta)
  | .finite negative quanta _ => some (signed negative quanta)

/-- Numeric order; not-a-number is unordered. -/
def order? (a b : Number) : Option Ordering :=
  match a.rank?, b.rank? with
  | some x, some y => some (compare x y)
  | _, _ => none

/-- Numeric equality: the two zeros are equal, and not-a-number equals nothing. -/
def equals (a b : Number) : Bool :=
  match a.rank?, b.rank? with
  | some x, some y => x == y
  | _, _ => false

/-- Equality for membership tests: the two zeros are the same, and so is not-a-number and itself. -/
def sameValueZero (a b : Number) : Bool := a.rank? == b.rank?

/-! ## Arithmetic -/

/-- The same magnitude with the other sign. -/
def neg : Number → Number
  | .nan => .nan
  | .infinite negative => .infinite !negative
  | .finite negative quanta h => .finite (!negative) quanta h

/-- The correctly rounded sum. A zero sum is negative only if both terms are; infinities of
unlike sign have no sum. -/
def add : Number → Number → Number
  | .nan, _ => .nan
  | _, .nan => .nan
  | .infinite s, .infinite t => if s = t then .infinite s else .nan
  | .infinite s, .finite .. => .infinite s
  | .finite .., .infinite t => .infinite t
  | .finite s x _, .finite t y _ =>
    let sum := signed s x + signed t y
    if sum = 0 then signedZero (s && t) else ofQuanta (sum < 0) sum.natAbs 1

/-- The correctly rounded difference. -/
def sub (a b : Number) : Number := a.add b.neg

/-! ## Integers -/

/-- The number is finite and has no fractional part. -/
def isInteger : Number → Bool
  | .finite _ quanta _ => quanta % quantaPerOne == 0
  | _ => false

/-- The integer part, toward zero; zero for a number that is not finite. -/
def truncate : Number → Int
  | .finite negative quanta _ => signed negative (quanta / quantaPerOne)
  | _ => 0

/-- The number without its fractional part. -/
def whole : Number → Number
  | .finite negative quanta _ => ofQuanta negative (quanta / quantaPerOne * quantaPerOne) 1
  | n => n

/-- The magnitude. -/
def abs : Number → Number
  | .nan => .nan
  | .infinite _ => .infinite false
  | .finite _ quanta h => .finite false quanta h

/-- The remainder of a division toward zero, with the sign of the dividend. An infinity has none,
and neither is there one by zero. -/
def rem : Number → Number → Number
  | .finite negative x h, .infinite _ => .finite negative x h
  | .finite negative x _, .finite _ y _ =>
    if y = 0 then .nan else ofQuanta negative (x % y) 1
  | _, _ => .nan

/-- The remainder of a division, to which the magnitude of the divisor is added if it is below
zero. -/
def modulo (x y : Number) : Number :=
  let r := x.rem y
  if r.order? zero = some .lt then r.add y.abs else r

/-- The integer part as 32 bits without a sign, or the nearer end of their range if it lies
outside; zero for not-a-number. -/
def toUInt32 : Number → UInt32
  | .nan => 0
  | .infinite negative => if negative then 0 else 0xFFFFFFFF
  | .finite negative quanta _ =>
    if negative then 0 else UInt32.ofNat (min (quanta / quantaPerOne) 0xFFFFFFFF)

/-- The number as 32 bits with a sign: what is left of its whole part by `2 ^ 32`, the greater half
of it read as negative. Zero for a number that is not finite. -/
def toInt32 (n : Number) : Int32 :=
  match n with
  | .finite .. => (n.whole.modulo (.ofNat (Nat.pow 2 32))).toUInt32.toInt32
  | _ => 0

end Number

end RecordQuery
