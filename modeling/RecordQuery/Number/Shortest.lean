import RecordQuery.Number.Rounding

/-!
# The fewest digits that read back

Every magnitude has an exact decimal expansion, because a quantum is `5 ^ 1074` units of the
1074th decimal place. `shortest` looks for the coarsest decimal grid on which a neighbour of that
expansion rounds back to the magnitude, and takes the nearer of two such neighbours. Seventeen
digits have always sufficed; past them the exact expansion itself is the answer, so that what
`shortest` returns reads back whatever the search finds.
-/

namespace RecordQuery.Number

/-- Where an exact tie between two equally short decimals goes. -/
inductive Tie where
  /-- To the larger decimal. -/
  | up
  /-- To the decimal with the even last digit. -/
  | even

/-- A decimal `coefficient * 10 ^ exponent`. -/
structure Decimal where
  /-- All digits, read as one number. -/
  coefficient : Nat
  /-- The power of ten of the last digit. -/
  exponent : Int
deriving DecidableEq

/-- Units of the 1074th decimal place in one quantum. -/
def placesPerQuantum : Nat := Nat.pow 5 1074

/-- The magnitude counted in units of the 1074th decimal place. -/
def expansion (quanta : Nat) : Nat := quanta * placesPerQuantum

/-- A decimal, given as a multiple of a power of ten of last places, rounds to the magnitude. -/
def readsBack (quanta multiple grid : Nat) : Bool :=
  nearestQuanta (multiple * grid) placesPerQuantum == quanta

/-- The closer of a multiple of the grid and the next one, of those that read back, where `rest`
lies between the first and the magnitude. -/
def closer? (tie : Tie) (lower rest grid : Nat) : Bool → Bool → Option Nat
  | true, false => some lower
  | false, true => some (lower + 1)
  | false, false => none
  | true, true =>
    if 2 * rest < grid then some lower
    else if grid < 2 * rest then some (lower + 1)
    else match tie with
      | .up => some (lower + 1)
      | .even => some (lower + lower % 2)

/-- The multiple of `grid` closest to the magnitude among its two neighbours that read back. -/
def nearestOnGrid? (tie : Tie) (quanta grid : Nat) : Option Nat :=
  let lower := expansion quanta / grid
  closer? tie lower (expansion quanta % grid) grid
    (readsBack quanta lower grid) (readsBack quanta (lower + 1) grid)

/-- The number of decimal digits of a positive number below `10 ^ 4000`: an estimate from the
binary logarithm, which is never too large and at most one too small, and one comparison. -/
def decimalLength (n : Nat) : Nat :=
  let estimate := n.log2 * 30102 / 100000 + 1
  if n < Nat.pow 10 estimate then estimate else estimate + 1

/-- The decimal with so many places more than one, of an expansion of the given length, that is
nearest to the magnitude among those that read back. -/
def ofDigits? (tie : Tie) (quanta length digits : Nat) : Option Decimal :=
  let dropped := length - 1 - digits
  (nearestOnGrid? tie quanta (Nat.pow 10 dropped)).map fun m => ⟨m, (dropped : Int) - 1074⟩

/-- The shortest decimal that rounds to a positive magnitude, and the nearest of those. -/
def shortest (tie : Tie) (quanta : Nat) : Decimal :=
  let length := decimalLength (expansion quanta)
  ((List.range 17).findSome? (ofDigits? tie quanta length)).getD ⟨expansion quanta, -1074⟩

end RecordQuery.Number
