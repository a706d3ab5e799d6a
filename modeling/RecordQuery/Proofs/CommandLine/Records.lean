import Mathlib.Data.List.Forall2
import RecordQuery.CommandLine.Records
import RecordQuery.Proofs.Outcome

/-!
# Reading records

A text on lines has one record on each line that is not blank, and is wrong at each such line that
is not JSON. A text that is to be an array is one or is wrong as a whole (`readRecords_yields`).
-/

namespace RecordQuery.CommandLine

/-- The lines that are not blank. -/
def filledLines (lines : List (List Char)) : List (List Char) :=
  lines.filter fun line => !(Text.trim line).isEmpty

/-- The failure of a line with its number, if it is neither blank nor JSON. -/
def lineFault? : List Char × Nat → Option Failure
  | (line, number) =>
    if (Text.trim line).isEmpty ∨ (Value.read? (String.ofList line)).isSome then none
    else some ⟨[.line number], .json⟩

/-- The failures of lines, the first of which has the given number. -/
def lineFaults (number : Nat) (lines : List (List Char)) : List Failure :=
  (lines.zipIdx number).filterMap lineFault?

/-- The line denotes the record. -/
def LineHolds (line : List Char) (record : Value) : Prop :=
  Value.read? (String.ofList line) = some record

/-- Lines that are not blank hold a record each, and the first that does not is at fault. -/
theorem recordsFrom_yields (number : Nat) (lines : List (List Char)) :
    Yields (recordsFrom number lines)
      (List.Forall₂ LineHolds (filledLines lines)) (lineFaults number lines) := by
  induction lines generalizing number with
  | nil => exact (Yields.result []).congr fun records => by simp [filledLines, eq_comm]
  | cons line rest ih =>
    rw [recordsFrom, lineFaults, filledLines, List.zipIdx_cons]
    by_cases hblank : (Text.trim line).isEmpty = true
    · have hfault : lineFault? (line, number) = none := if_pos (.inl hblank)
      rw [if_pos hblank, List.filter_cons_of_neg (by simp [hblank]),
        List.filterMap_cons_none hfault]
      exact ih (number + 1)
    · rw [if_neg hblank, List.filter_cons_of_pos (by simp [hblank])]
      cases hread : Value.read? (String.ofList line) with
      | none =>
        have hfault : lineFault? (line, number) = some ⟨[.line number], .json⟩ :=
          if_neg (by simp [hblank, hread])
        rw [List.filterMap_cons_some hfault]
        refine (Yields.fault _ _).congr fun records => iff_of_false id ?_
        rw [List.forall₂_cons_left_iff]
        rintro ⟨record, _, hrecord, _⟩
        rw [LineHolds, hread] at hrecord
        cases hrecord
      | some v =>
        have hfault : lineFault? (line, number) = none := if_pos (.inr (by simp [hread]))
        rw [List.filterMap_cons_none hfault]
        refine ((ih (number + 1)).map (v :: ·)).congr fun records => ?_
        rw [List.forall₂_cons_left_iff]
        constructor
        · rintro ⟨more, hmore, rfl⟩
          exact ⟨v, more, hread, hmore, rfl⟩
        · rintro ⟨record, more, hrecord, hmore, rfl⟩
          obtain rfl := Option.some.inj (hread.symm.trans hrecord)
          exact ⟨more, hmore, rfl⟩

/-- How the records in a text are written. -/
inductive Shape where
  /-- There are none. -/
  | blank
  /-- The text is to be a JSON array. -/
  | array (text : String)
  /-- The text has lines. -/
  | lined (lines : List (List Char))

/-- How the records in a text are written. -/
def shape (text : String) : Shape :=
  match Text.trimStart text.toList with
  | [] => .blank
  | '[' :: rest => .array (String.ofList ('[' :: rest))
  | _ => .lined (lines text.toList)

/-- The records are written so: the items of one JSON array, or one on each line that is not
blank. -/
def Shape.Holds : Shape → List Value → Prop
  | blank, records => records = []
  | array text, records => Value.read? text = some (.array records)
  | lined lines, records => List.Forall₂ LineHolds (filledLines lines) records

/-- What is wrong with a text: what is to be an array is none, or lines are not JSON. -/
def Shape.faults : Shape → List Failure
  | blank => []
  | array text =>
    match Value.read? text with
    | some (.array _) => []
    | _ => [⟨[], .json⟩]
  | lined lines => lineFaults 1 lines

/-- What is read of a text of the given shape. -/
def Shape.read : Shape → Except Failure (List Value)
  | blank => .ok []
  | array text =>
    match Value.read? text with
    | some (.array items) => .ok items
    | _ => .error ⟨[], .json⟩
  | lined lines => recordsFrom 1 lines

/-- A text is read as its shape says. -/
theorem readRecords_eq (text : String) : readRecords text = (shape text).read := by
  unfold readRecords shape
  generalize Text.trimStart text.toList = trimmed
  split
  · rfl
  · rfl
  · simp_all [Shape.read]

/-- A text has records or is at fault. -/
theorem readRecords_yields (text : String) :
    Yields (readRecords text) (shape text).Holds (shape text).faults := by
  rw [readRecords_eq]
  cases shape text with
  | blank => exact (Yields.result []).congr fun records => eq_comm
  | lined lines => exact recordsFrom_yields 1 lines
  | array text =>
    unfold Shape.read Shape.Holds Shape.faults
    dsimp only
    split
    · next items hread =>
      refine (Yields.result items).congr fun records => ?_
      rw [hread, Option.some.injEq, Value.array.injEq]
    · next hread =>
      exact (Yields.fault _ _).congr fun records => iff_of_false id (hread records)

end RecordQuery.CommandLine
