import RecordQuery.Number.Layout
import RecordQuery.Text.Quoted
import RecordQuery.Value.Coercion

/-!
# Writing JSON

A value is written on one line or indented by two spaces a level. JSON has no undefined value, so
undefined fields are left out and other undefined values become null; wide integers and patterns
become strings, and numbers that are not finite become null. An integer below `2 ^ 53` is written
without a point. Other numbers have the fewest digits that identify them, positionally from
`10 ^ -5` up to but not including `10 ^ 16`.
-/

namespace RecordQuery

/-- The format of a JSON number that is no small integer. -/
def Number.jsonLayout : Number.Layout where
  lowest := -5
  highest := 15
  pointZero := true
  tie := .even

/-- The JSON text of a number. -/
def Number.json : Number → String
  | .finite negative quanta h =>
    if quanta % quantaPerOne = 0 ∧ quanta / quantaPerOne < Nat.pow 2 53 then
      Text.integer (Number.finite negative quanta h).truncate
    else jsonLayout.write negative quanta
  | _ => "null"

namespace Json

/-- How a text is laid out. -/
inductive Form where
  /-- On one line without spaces. -/
  | compact
  /-- One item or field a line. -/
  | pretty
deriving DecidableEq

/-- The line break and indentation of a level. -/
def Form.break (form : Form) (level : Nat) : String :=
  match form with
  | .compact => ""
  | .pretty => "\n" ++ String.ofList (List.replicate (2 * level) ' ')

/-- What stands between a key and its value. -/
def Form.colon : Form → String
  | .compact => ":"
  | .pretty => ": "

/-- The parts of a container between its brackets. -/
def Form.enclose (form : Form) (level : Nat) (opening closing : String) (parts : List String) :
    String :=
  if parts.isEmpty then opening ++ closing
  else
    opening ++ form.break (level + 1)
      ++ String.intercalate ("," ++ form.break (level + 1)) parts
      ++ form.break level ++ closing

end Json

namespace Value

mutual
/-- The JSON text of a value inside so many containers. -/
def jsonAt (form : Json.Form) (level : Nat) : Value → String
  | undefined => "null"
  | null => "null"
  | bool b => if b then "true" else "false"
  | number n => n.json
  | bigint n => Text.quote n.text
  | string s => Text.quote s
  | regex p => Text.quote p.text
  | array items => form.enclose level "[" "]" (jsonItems form (level + 1) items)
  | object fields => form.enclose level "\x7b" "\x7d" (jsonFields form (level + 1) fields)

/-- The JSON texts of items. -/
def jsonItems (form : Json.Form) (level : Nat) : List Value → List String
  | [] => []
  | v :: rest => v.jsonAt form level :: jsonItems form level rest

/-- The JSON texts of the fields that are defined. -/
def jsonFields (form : Json.Form) (level : Nat) : List (String × Value) → List String
  | [] => []
  | (key, v) :: rest =>
    if v.isUndefined then jsonFields form level rest
    else (Text.quote key ++ form.colon ++ v.jsonAt form level) :: jsonFields form level rest
end

/-- The JSON text of a value. -/
def json (form : Json.Form) (v : Value) : String := v.jsonAt form 0

end Value

end RecordQuery
