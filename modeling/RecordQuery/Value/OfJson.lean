import RecordQuery.Json.Reader
import RecordQuery.Value.Basic

/-!
# Values from JSON

A record is read as the values that its text spells out. A specification may also hold patterns:
JSON has no literal for them, so an object with nothing but a `$regex` text and optional `$flags`
stands for one.
-/

namespace RecordQuery.Value

/-- What the JSON reader makes of a record. -/
def builder : Json.Builder Value where
  null := .null
  bool := .bool
  number n := .number n.toNumber
  string := .string
  array := .array
  object := ofEntries

/-- The record that a JSON text denotes. -/
def read? (text : String) : Option Value := builder.read? Json.depthLimit text

mutual
/-- The value that plain JSON spells out. -/
def ofJson : Json → Value
  | .null => .null
  | .bool b => .bool b
  | .number n => .number n.toNumber
  | .string s => .string s
  | .array items => .array (ofJsonItems items)
  | .object fields => .object (ofJsonFields fields)

/-- The values that plain JSON items spell out. -/
def ofJsonItems : List Json → List Value
  | [] => []
  | j :: rest => ofJson j :: ofJsonItems rest

/-- The fields that plain JSON fields spell out. -/
def ofJsonFields : List (String × Json) → List (String × Value)
  | [] => []
  | (key, j) :: rest => (key, ofJson j) :: ofJsonFields rest
end

/-- The source and flags of the pattern that fields stand for: a `$regex` text and nothing else but
`$flags`, which count if they are a text. -/
def patternFields? (fields : List (String × Json)) : Option (String × String) :=
  if fields.all fun (key, _) => key == "$regex" || key == "$flags" then
    match fields.lookup "$regex", fields.lookup "$flags" with
    | some (.string source), some (.string flags) => some (source, flags)
    | some (.string source), _ => some (source, "")
    | _, _ => none
  else none

mutual
/-- The specification that plain JSON spells out, with its patterns. The first pattern that is
refused, in the order of the text, is the error. -/
def ofSpecification : Json → Except Pattern.Fault Value
  | .array items => (ofSpecificationItems items).map array
  | .object fields =>
    match patternFields? fields with
    | some (source, flags) => (Pattern.withFlags source flags).map regex
    | none => (ofSpecificationFields fields).map object
  | .null => .ok .null
  | .bool b => .ok (.bool b)
  | .number n => .ok (.number n.toNumber)
  | .string s => .ok (.string s)

/-- The items of a specification. -/
def ofSpecificationItems : List Json → Except Pattern.Fault (List Value)
  | [] => .ok []
  | j :: rest => do
    let v ← ofSpecification j
    let more ← ofSpecificationItems rest
    return v :: more

/-- The fields of a specification. -/
def ofSpecificationFields : List (String × Json) → Except Pattern.Fault (List (String × Value))
  | [] => .ok []
  | (key, j) :: rest => do
    let v ← ofSpecification j
    let more ← ofSpecificationFields rest
    return (key, v) :: more
end

end RecordQuery.Value
