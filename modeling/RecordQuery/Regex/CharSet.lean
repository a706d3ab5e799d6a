import RecordQuery.Text.Blank

/-!
# Sets of characters

A set is a list of closed ranges of code points, ascending and with a gap between neighbours.
`insert` keeps that form, so `complement` can read the gaps off the list.
-/

namespace RecordQuery.Regex

/-- A set of characters as ranges of code points. -/
abbrev CharSet := Text.Ranges

namespace CharSet

/-- The greatest code point. -/
def greatest : Nat := 0x10FFFF

/-- The set with a range added; ranges that touch are joined. -/
def insert (low high : Nat) : CharSet → CharSet
  | [] => [(low, high)]
  | (a, b) :: rest =>
    if high + 1 < a then (low, high) :: (a, b) :: rest
    else if b + 1 < low then (a, b) :: insert low high rest
    else insert (min low a) (max high b) rest

/-- The set of the given ranges, in any order. -/
def ofRanges (ranges : List (Nat × Nat)) : CharSet :=
  ranges.foldl (fun set (low, high) => insert low high set) []

/-- The code points from `start` on that are in none of the ranges. -/
def gapsFrom (start : Nat) : CharSet → CharSet
  | [] => if start ≤ greatest then [(start, greatest)] else []
  | (a, b) :: rest =>
    if start < a then (start, a - 1) :: gapsFrom (b + 1) rest else gapsFrom (b + 1) rest

/-- The characters that are not in the set. -/
def complement (set : CharSet) : CharSet := gapsFrom 0 set

/-- The part of a range between two letters, moved to the other case. -/
def shiftedCase (first last : Nat) (shift : Nat → Nat) (range : Nat × Nat) :
    Option (Nat × Nat) :=
  let low := max first range.1
  let high := min last range.2
  if low ≤ high then some (shift low, shift high) else none

/-- The letters that a range brings in when case is ignored; ASCII letters only. They are the upper
case of its lowercase letters or, in a range without any, the lower case of its uppercase ones: a
range with letters of both cases brings in nothing for its uppercase letters. -/
def otherCase? (range : Nat × Nat) : Option (Nat × Nat) :=
  (shiftedCase 0x61 0x7A (· - 32) range).or (shiftedCase 0x41 0x5A (· + 32) range)

/-- The set with what its ranges bring in when case is ignored. -/
def foldCase (set : CharSet) : CharSet := ofRanges (set ++ set.filterMap otherCase?)

/-- The named classes of a bracketed class; all of them are ASCII. -/
def named? : String → Option CharSet
  | "alnum" => some [(0x30, 0x39), (0x41, 0x5A), (0x61, 0x7A)]
  | "alpha" => some [(0x41, 0x5A), (0x61, 0x7A)]
  | "ascii" => some [(0x00, 0x7F)]
  | "blank" => some [(0x09, 0x09), (0x20, 0x20)]
  | "cntrl" => some [(0x00, 0x1F), (0x7F, 0x7F)]
  | "digit" => some [(0x30, 0x39)]
  | "graph" => some [(0x21, 0x7E)]
  | "lower" => some [(0x61, 0x7A)]
  | "print" => some [(0x20, 0x7E)]
  | "punct" => some [(0x21, 0x2F), (0x3A, 0x40), (0x5B, 0x60), (0x7B, 0x7E)]
  | "space" => some [(0x09, 0x0D), (0x20, 0x20)]
  | "upper" => some [(0x41, 0x5A)]
  | "word" => some [(0x30, 0x39), (0x41, 0x5A), (0x5F, 0x5F), (0x61, 0x7A)]
  | "xdigit" => some [(0x30, 0x39), (0x41, 0x46), (0x61, 0x66)]
  | _ => none

/-- The decimal digits. -/
def digits : CharSet := [(0x30, 0x39)]

/-- The white space of a pattern; ASCII only. -/
def spaces : CharSet := [(0x09, 0x0D), (0x20, 0x20)]

/-- The characters of a word; ASCII only. -/
def word : CharSet := [(0x30, 0x39), (0x41, 0x5A), (0x5F, 0x5F), (0x61, 0x7A)]

end CharSet

end RecordQuery.Regex
