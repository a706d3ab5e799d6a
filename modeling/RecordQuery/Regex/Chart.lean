import RecordQuery.Regex.Expr

/-!
# Charts

A set of positions in a text is one natural number: bit `i` stands for the place in front of the
character number `i`. The chart of a text says where each of its characters stands, and every
question about single positions is answered by operations on such sets: where a character of some
kind stands, and where a condition between two characters holds.
-/

namespace RecordQuery.Regex

/-! ## Sets of positions -/

/-- The set of the given positions. -/
def ofPositions (positions : List Nat) : Nat :=
  positions.foldl (fun all i => all ||| 1 <<< i) 0

/-- The positions of one set that are not in another. -/
def without (positions others : Nat) : Nat := positions ^^^ (positions &&& others)

/-! ## Charts -/

/-- Where the characters of a text stand. -/
structure Chart where
  /-- The number of characters. -/
  length : Nat
  /-- Each character of the text with the positions in front of it. -/
  places : List (Char × Nat)

/-- The character belongs to a word. -/
def isWord (c : Char) : Bool := CharSet.word.contains c.toNat

namespace Chart

/-- The chart of a text. Sorting brings equal characters together. -/
def ofText (subject : List Char) : Chart where
  length := subject.length
  places :=
    let sorted := subject.zipIdx.mergeSort fun x y => x.1.toNat ≤ y.1.toNat
    (sorted.splitBy fun x y => x.1 == y.1).filterMap fun
      | [] => none
      | (c, i) :: others => some (c, ofPositions (i :: others.map Prod.snd))

/-- The positions in front of the characters that satisfy a test. -/
def before (chart : Chart) (test : Char → Bool) : Nat :=
  chart.places.foldl (fun all (c, places) => if test c then all ||| places else all) 0

/-- The positions behind the characters that satisfy a test. -/
def after (chart : Chart) (test : Char → Bool) : Nat := chart.before test <<< 1

/-- The position in front of the text. -/
def first (_ : Chart) : Nat := 1

/-- The position behind the text. -/
def last (chart : Chart) : Nat := 1 <<< chart.length

/-- All positions. -/
def everywhere (chart : Chart) : Nat := Nat.pow 2 (chart.length + 1) - 1

end Chart

/-- The positions where a condition holds. -/
def Look.positions (look : Look) (chart : Chart) : Nat :=
  match look with
  | .textStart => chart.first
  | .textEnd => chart.last
  | .lineStart => chart.first ||| chart.after (· == '\n')
  | .lineEnd => chart.last ||| chart.before (· == '\n')
  | .fullLineStart =>
    chart.first ||| chart.after (· == '\n') |||
      without (chart.after (· == '\r')) (chart.before (· == '\n'))
  | .fullLineEnd =>
    chart.last ||| chart.before (· == '\r') |||
      without (chart.before (· == '\n')) (chart.after (· == '\r'))
  | .wordBoundary => chart.after isWord ^^^ chart.before isWord
  | .insideOrOutsideWord =>
    without chart.everywhere (chart.after isWord ^^^ chart.before isWord)
  | .wordStart => without (chart.before isWord) (chart.after isWord)
  | .wordEnd => without (chart.after isWord) (chart.before isWord)
  | .afterNonWord => without chart.everywhere (chart.after isWord)
  | .beforeNonWord => without chart.everywhere (chart.before isWord)

end RecordQuery.Regex
