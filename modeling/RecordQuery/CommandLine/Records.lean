import RecordQuery.CommandLine.Failure
import RecordQuery.Text.Blank
import RecordQuery.Value.OfJson

/-!
# Records in a text

A text that begins with an opening bracket, blanks aside, is a JSON array of records. Any other text
holds one record a line, and blank lines count but hold none.
-/

namespace RecordQuery.CommandLine

/-- A line that ends at a line feed, from its characters in reverse order. A carriage return before
the line feed belongs to the line end. -/
def endLine : List Char → List Char
  | '\r' :: before => before.reverse
  | before => before.reverse

/-- The lines of the text that follows `before`, the part of its first line that was read, last
character first. -/
def linesAfter (before : List Char) : List Char → List (List Char)
  | [] => if before.isEmpty then [] else [before.reverse]
  | '\n' :: rest => endLine before :: linesAfter [] rest
  | c :: rest => linesAfter (c :: before) rest

/-- The lines of a text. The last one needs no line feed. -/
def lines (cs : List Char) : List (List Char) := linesAfter [] cs

/-- The records on lines, the first of which has the given number. -/
def recordsFrom (number : Nat) : List (List Char) → Except Failure (List Value)
  | [] => .ok []
  | line :: rest =>
    if (Text.trim line).isEmpty then recordsFrom (number + 1) rest
    else match Value.read? (String.ofList line) with
      | none => .error ⟨[.line number], .json⟩
      | some v => (recordsFrom (number + 1) rest).map (v :: ·)

/-- The records in a text. -/
def readRecords (text : String) : Except Failure (List Value) :=
  match Text.trimStart text.toList with
  | [] => .ok []
  | '[' :: rest =>
    match Value.read? (String.ofList ('[' :: rest)) with
    | some (.array items) => .ok items
    | _ => .error ⟨[], .json⟩
  | _ => recordsFrom 1 (lines text.toList)

end RecordQuery.CommandLine
