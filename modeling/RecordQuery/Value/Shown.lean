import RecordQuery.Value.Coercion
import RecordQuery.Text.Shown

/-!
# Values shown for diagnosis

The form of a value in which kinds can be told apart: texts are quoted, wide integers end in `n`,
and arrays and objects show their parts.
-/

namespace RecordQuery.Value

mutual
/-- The value as it is shown. -/
def shown : Value → String
  | undefined => "undefined"
  | null => "null"
  | bool b => if b then "true" else "false"
  | number n => n.text
  | bigint n => n.text ++ "n"
  | string s => Text.shown s
  | regex p => p.text
  | array items => "[" ++ String.intercalate ", " (shownItems items) ++ "]"
  | object fields => "\x7b" ++ String.intercalate ", " (shownFields fields) ++ "\x7d"

/-- The items as they are shown. -/
def shownItems : List Value → List String
  | [] => []
  | v :: rest => v.shown :: shownItems rest

/-- The fields as they are shown. -/
def shownFields : List (String × Value) → List String
  | [] => []
  | (key, v) :: rest => (Text.shown key ++ ": " ++ v.shown) :: shownFields rest
end

end RecordQuery.Value
