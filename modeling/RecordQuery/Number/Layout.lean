import RecordQuery.Number.Shortest

/-!
# How a decimal is written

`Layout` holds the decisions of one output format: which leading exponents are written
positionally, whether an integral value shows a fraction, and where ties between equally short
decimals go. `Layout.write` is the one function that applies them.
-/

namespace RecordQuery.Number

/-- The decisions of a number format. -/
structure Layout where
  /-- The least leading exponent that is written positionally. -/
  lowest : Int
  /-- The greatest leading exponent that is written positionally. -/
  highest : Int
  /-- An integral value in positional form ends in `.0`. -/
  pointZero : Bool
  /-- The choice between two equally short and equally near decimals. -/
  tie : Tie

/-- Digits without their final zeros. -/
def significantDigits (digits : List Char) : List Char :=
  (digits.reverse.dropWhile (· == '0')).reverse

/-- Positional form of digits whose first stands at the given power of ten. -/
def positional (pointZero : Bool) (digits : List Char) (leading : Int) : List Char :=
  if leading < 0 then
    '0' :: '.' :: (List.replicate (-leading - 1).toNat '0' ++ digits)
  else
    let whole := leading.toNat + 1
    if digits.length ≤ whole then
      digits ++ List.replicate (whole - digits.length) '0' ++ (if pointZero then ['.', '0'] else [])
    else digits.take whole ++ '.' :: digits.drop whole

/-- Exponent form of digits whose first stands at the given power of ten; the exponent always
carries its sign. -/
def scientific (digits : List Char) (leading : Int) : List Char :=
  let mantissa := match digits with
    | first :: second :: rest => first :: '.' :: second :: rest
    | short => short
  mantissa ++ 'e' :: (if leading < 0 then '-' else '+') :: Nat.toDigits 10 leading.natAbs

/-- A decimal in the form that its leading exponent asks for. -/
def Layout.place (layout : Layout) (decimal : Decimal) : List Char :=
  let all := Nat.toDigits 10 decimal.coefficient
  let leading := decimal.exponent + all.length - 1
  let digits := significantDigits all
  if layout.lowest ≤ leading && leading ≤ layout.highest then
    positional layout.pointZero digits leading
  else scientific digits leading

/-- A signed positive magnitude in the given format. -/
def Layout.write (layout : Layout) (negative : Bool) (quanta : Nat) : String :=
  let body := layout.place (shortest layout.tie quanta)
  String.ofList (if negative then '-' :: body else body)

end RecordQuery.Number
