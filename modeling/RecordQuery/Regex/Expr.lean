import RecordQuery.Regex.CharSet

/-!
# Regular expressions

The syntax tree of a regular expression and the two measures that bound what is accepted: how deep
it nests and how large its automaton would be. A search only asks whether there is a match, so
greed leaves no trace in the tree.
-/

namespace RecordQuery.Regex

/-- A condition on a position between two characters. -/
inductive Look where
  | textStart
  | textEnd
  | lineStart
  | lineEnd
  /-- Start of a line where a carriage return before a line feed belongs to the line end. -/
  | fullLineStart
  /-- End of a line where a carriage return before a line feed belongs to the line end. -/
  | fullLineEnd
  | wordBoundary
  | insideOrOutsideWord
  | wordStart
  | wordEnd
  /-- No word character before the position. -/
  | afterNonWord
  /-- No word character after the position. -/
  | beforeNonWord
deriving DecidableEq

/-- What tells a numbered group from the others. -/
structure Label where
  /-- The place of the group among all groups, the first being 1. -/
  index : Nat
  name : Option String
deriving DecidableEq

/-- A regular expression. -/
inductive Expr where
  /-- Matches nothing but the empty text. -/
  | empty
  /-- Matches one character. -/
  | literal (c : Char)
  /-- Matches one character of a set. -/
  | oneOf (set : CharSet)
  /-- Matches the empty text where a condition holds. -/
  | look (condition : Look)
  /-- Matches its operand so many times; without `most` there is no upper bound. -/
  | repetition (least : Nat) (most : Option Nat) (operand : Expr)
  /-- A numbered group. -/
  | group (label : Label) (operand : Expr)
  /-- One operand after the other. -/
  | concat (operands : List Expr)
  /-- Any one of the operands. -/
  | alternation (operands : List Expr)

namespace Expr

/-- The operands one after the other. -/
def ofSequence : List Expr → Expr
  | [] => .empty
  | [single] => single
  | operands => .concat operands

/-- Any one of the operands. -/
def ofBranches : List Expr → Expr
  | [single] => single
  | operands => .alternation operands

/-- A repetition; exactly none and exactly one are no repetitions. -/
def ofRepetition (least : Nat) (most : Option Nat) (operand : Expr) : Expr :=
  if least = 0 ∧ most = some 0 then .empty
  else if least = 1 ∧ most = some 1 then operand
  else .repetition least most operand

/-! ## Measures -/

mutual
/-- The expression matches the empty text somewhere. -/
def isNullable : Expr → Bool
  | .empty => true
  | .literal _ => false
  | .oneOf _ => false
  | .look _ => true
  | .repetition least _ operand => least == 0 || operand.isNullable
  | .group _ operand => operand.isNullable
  | .concat operands => areNullable operands
  | .alternation operands => isAnyNullable operands

/-- Every operand matches the empty text. -/
def areNullable : List Expr → Bool
  | [] => true
  | e :: rest => e.isNullable && areNullable rest

/-- Some operand matches the empty text. -/
def isAnyNullable : List Expr → Bool
  | [] => false
  | e :: rest => e.isNullable || isAnyNullable rest
end

mutual
/-- How many operands enclose the innermost part of the expression. -/
def nesting : Expr → Nat
  | .empty => 0
  | .literal _ => 0
  | .oneOf _ => 0
  | .look _ => 0
  | .repetition _ _ operand => operand.nesting + 1
  | .group _ operand => operand.nesting + 1
  | .concat operands => nestingOf operands + 1
  | .alternation operands => nestingOf operands + 1

/-- The deepest nesting among the operands. -/
def nestingOf : List Expr → Nat
  | [] => 0
  | e :: rest => max e.nesting (nestingOf rest)
end

/-- The size of one state of the automaton. -/
def stateSize : Nat := 32

/-- The size of a state with two ways on. -/
def forkSize : Nat := stateSize + 2 * 4

mutual
/-- The size in bytes of the automaton for the expression: a state for each character, set,
condition and fork, with the ranges of a set and the ways on from a fork. -/
def automatonSize : Expr → Nat
  | .empty => stateSize
  | .literal _ => stateSize
  | .oneOf set => stateSize + 8 * set.length
  | .look _ => stateSize
  | .repetition least most operand =>
    let size := operand.automatonSize
    match least, most with
    | 0, some 1 => forkSize + size + stateSize
    | 0, none =>
      if operand.isNullable then size + 2 * forkSize + stateSize else forkSize + size
    | n, none => n * size + forkSize
    | n, some m =>
      let required := if n = 0 then stateSize else n * size
      if n = m then required else required + stateSize + (m - n) * (forkSize + size)
  | .group _ operand => 2 * stateSize + operand.automatonSize
  | .concat operands => automatonSizeOf operands
  | .alternation operands =>
    2 * stateSize + 4 * operands.length + automatonSizeOf operands

/-- The automaton sizes of the operands together. -/
def automatonSizeOf : List Expr → Nat
  | [] => 0
  | e :: rest => e.automatonSize + automatonSizeOf rest
end

mutual
/-- The labels of the numbered groups in the expression. -/
def labels : Expr → List Label
  | .empty => []
  | .literal _ => []
  | .oneOf _ => []
  | .look _ => []
  | .repetition _ _ operand => operand.labels
  | .group label operand => label :: operand.labels
  | .concat operands => labelsOf operands
  | .alternation operands => labelsOf operands

/-- The labels of the numbered groups in the operands. -/
def labelsOf : List Expr → List Label
  | [] => []
  | e :: rest => e.labels ++ labelsOf rest
end

/-- The size in bytes of the table of groups: a slot for the whole match and for every index up to
the last, and the names with their lengths. -/
def groupTableSize (labels : List Label) : Nat :=
  let last := labels.foldl (fun last label => max last label.index) 0
  let names := labels.filterMap Label.name
  16 * (last + 1) + names.foldl (fun size name => size + name.utf8ByteSize + 4) 0

/-- The size in bytes of the automaton for a whole pattern: the whole match is a group of its own
and ends in a state of its own. -/
def totalSize (e : Expr) : Nat :=
  2 * stateSize + e.automatonSize + stateSize + groupTableSize e.labels

end Expr

end RecordQuery.Regex
