import RecordQuery.Number.Basic
import RecordQuery.Text.Blank
import RecordQuery.Text.Numeral

/-!
# Reading numbers from text

Two grammars share the value of a decimal. `ofDecimalText?` reads a signed decimal with an
optional point and exponent, and `ofText` is the coercion of text to a number: blanks at the ends
are dropped, nothing reads as zero, `0x`, `0o` and `0b` introduce whole numbers of 128 bits, and
text outside the grammar reads as not-a-number.
-/

namespace RecordQuery.Number

/-- The digits at the front of a text, and what follows them. -/
def spanDigits (cs : List Char) : List Char × List Char :=
  (cs.takeWhile Char.isDigit, cs.dropWhile Char.isDigit)

/-- A sign and what follows it; without one the sign is plus. -/
def spanSign : List Char → Bool × List Char
  | '-' :: rest => (true, rest)
  | '+' :: rest => (false, rest)
  | cs => (false, cs)

/-- The value of a run of decimal digits. -/
def digitsValue (digits : List Char) : Nat := Nat.ofDigitChars 10 digits 0

/-- The exponent part that ends a decimal: nothing, or a mark, an optional sign and digits. -/
def exponentValue? : List Char → Option Int
  | [] => some 0
  | mark :: rest =>
    if mark = 'e' ∨ mark = 'E' then
      let (negative, unsigned) := spanSign rest
      let (digits, leftover) := spanDigits unsigned
      if digits.isEmpty || !leftover.isEmpty then none
      else some (signed negative (digitsValue digits))
    else none

/-- The value of the digits before and after a point and of an exponent. -/
def ofParts (negative : Bool) (whole fraction : List Char) (exponent : Int) : Number :=
  ofDecimal negative (digitsValue (whole ++ fraction)) (exponent - fraction.length)

/-- A decimal: an optional sign, digits with an optional point, at least one digit in all, and an
optional exponent. -/
def ofDecimalText? (cs : List Char) : Option Number :=
  let (negative, unsigned) := spanSign cs
  let (whole, afterWhole) := spanDigits unsigned
  let (fraction, tail) := match afterWhole with
    | '.' :: rest => spanDigits rest
    | rest => ([], rest)
  if whole.isEmpty && fraction.isEmpty then none
  else (exponentValue? tail).map (ofParts negative whole fraction)

/-- The radix that a mark at the front of a text announces, and the text behind the mark. -/
def spanRadix? : List Char → Option (Nat × List Char)
  | '0' :: 'x' :: rest => some (16, rest)
  | '0' :: 'X' :: rest => some (16, rest)
  | '0' :: 'o' :: rest => some (8, rest)
  | '0' :: 'O' :: rest => some (8, rest)
  | '0' :: 'b' :: rest => some (2, rest)
  | '0' :: 'B' :: rest => some (2, rest)
  | _ => none

/-- A whole number in the given radix, which must fit in 128 bits. -/
def ofRadixText (radix : Nat) (cs : List Char) : Number :=
  match Text.readNat? radix cs with
  | some n => if n < Nat.pow 2 128 then ofNat n else .nan
  | none => .nan

/-- The number that a text without outer blanks stands for. -/
def ofTrimmed (cs : List Char) : Number :=
  if cs.isEmpty then zero
  else match spanRadix? cs with
    | some (radix, rest) => ofRadixText radix rest
    | none =>
      if cs = "Infinity".toList ∨ cs = "+Infinity".toList then .infinite false
      else if cs = "-Infinity".toList then .infinite true
      else (ofDecimalText? cs).getD .nan

/-- The number that a text stands for. -/
def ofText (s : String) : Number := ofTrimmed (Text.trim s.toList)

end RecordQuery.Number
