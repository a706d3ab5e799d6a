import RecordQuery.Value.Basic
import RecordQuery.Text.Units

/-!
# Access to parts of a value

`Value.get` never fails: what is not there is undefined. Arrays and texts answer to `length` and to
the decimal text of an index. A text is indexed in 16-bit units.
-/

namespace RecordQuery.Value

/-- The value at an index key, or undefined. -/
def atIndex (items : List Value) (key : String) : Value :=
  ((Text.index? key).bind (items[·]?)).getD undefined

/-- The value under a key. -/
def get (v : Value) (key : String) : Value :=
  match v with
  | object fields => (fields.lookup key).getD undefined
  | array items =>
    if key = "length" then number (.ofNat items.length) else atIndex items key
  | string s =>
    let units := Text.units s.toList
    if key = "length" then number (.ofNat units.length)
    else match (Text.index? key).bind (units[·]?) with
      | some unit => string (String.ofList [Text.ofUnit unit])
      | none => undefined
  | _ => undefined

end RecordQuery.Value
