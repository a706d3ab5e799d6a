import RecordQuery.Value.Basic
import RecordQuery.Number.Reading
import RecordQuery.Number.Text

/-!
# Coercions

The text and the number that a value stands for where one is wanted. The text of an array joins the
texts of its items by commas and leaves out undefined and null items; every object has the same
text. Arrays and patterns become numbers through their text.
-/

namespace RecordQuery.Value

mutual
/-- The text that the value stands for. -/
def text : Value → String
  | undefined => "undefined"
  | null => "null"
  | bool b => if b then "true" else "false"
  | number n => n.text
  | bigint n => n.text
  | string s => s
  | regex p => p.text
  | array items => String.intercalate "," (itemTexts items)
  | object _ => "[object Object]"

/-- The texts of the items of an array; an undefined or null item has none. -/
def itemTexts : List Value → List String
  | [] => []
  | v :: rest => (if v.isNullish then "" else v.text) :: itemTexts rest
end

/-- The number that the value stands for. -/
def toNumber : Value → Number
  | undefined => .nan
  | null => .ofNat 0
  | bool b => .ofNat b.toNat
  | number n => n
  | bigint n => n.toNumber
  | string s => .ofText s
  | regex p => .ofText p.text
  | array items => .ofText (text (array items))
  | object _ => .nan

end RecordQuery.Value
