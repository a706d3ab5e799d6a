/-!
# Numerals

Reading digits in a radix, and the decimal text of integers. A numeral has at least one digit and
nothing but digits; `readNat?` and `readInt?` also take the sign that a caller may write.
-/

namespace RecordQuery.Text

/-- The value of a digit in radix 16 or less. -/
def digitValue? (c : Char) : Option Nat :=
  if '0' ≤ c ∧ c ≤ '9' then some (c.toNat - '0'.toNat)
  else if 'a' ≤ c ∧ c ≤ 'f' then some (c.toNat - 'a'.toNat + 10)
  else if 'A' ≤ c ∧ c ≤ 'F' then some (c.toNat - 'A'.toNat + 10)
  else none

/-- The value of digits read after `start`, if each of them is below the radix. -/
def extendDigits? (radix : Nat) : Nat → List Char → Option Nat
  | start, [] => some start
  | start, c :: rest =>
    match digitValue? c with
    | some d => if d < radix then extendDigits? radix (radix * start + d) rest else none
    | none => none

/-- The value of a numeral in the given radix. -/
def digits? (radix : Nat) (cs : List Char) : Option Nat :=
  if cs.isEmpty then none else extendDigits? radix 0 cs

/-- A numeral with an optional plus sign. -/
def readNat? (radix : Nat) : List Char → Option Nat
  | '+' :: rest => digits? radix rest
  | cs => digits? radix cs

/-- A decimal integer with an optional sign. -/
def readInt? : List Char → Option Int
  | '+' :: rest => (digits? 10 rest).map Int.ofNat
  | '-' :: rest => (digits? 10 rest).map fun n => -Int.ofNat n
  | cs => (digits? 10 cs).map Int.ofNat

/-- The decimal digits of a natural number, without leading zeros. -/
def decimal (n : Nat) : String := String.ofList (Nat.toDigits 10 n)

/-- The decimal text of an integer. -/
def integer (n : Int) : String :=
  if n < 0 then "-" ++ decimal n.natAbs else decimal n.natAbs

/-- The index that a key names, if the key is the decimal text of one. An index may be of any size:
one beyond a machine word is beyond the end of all that has an index. -/
def index? (key : String) : Option Nat :=
  (readNat? 10 key.toList).filter fun n => decimal n == key

end RecordQuery.Text
