import RecordQuery.BigInt
import RecordQuery.Fields
import RecordQuery.Pattern

/-!
# Values

Records and specifications are made of the same values. An object lists its fields in the order
in which their keys first came, and `Fields.put` keeps every key there once: a repeated key keeps
its place and takes the new value. `Value.WellFormed` says that this holds at every depth.
-/

namespace RecordQuery

/-- A value of a record or of a specification. -/
inductive Value where
  /-- No value, as of a field that is not there. -/
  | undefined
  /-- The null value. -/
  | null
  /-- A truth value. -/
  | bool (b : Bool)
  /-- A double-precision number. -/
  | number (n : Number)
  /-- A wide integer. -/
  | bigint (n : BigInt)
  /-- A text. -/
  | string (s : String)
  /-- A pattern. -/
  | regex (p : Pattern)
  /-- A list of values. -/
  | array (items : List Value)
  /-- Values under keys, in the order of their first arrival. -/
  | object (fields : List (String × Value))

/-- What sort of value a value is. -/
inductive Kind where
  | undefined
  | null
  | boolean
  | number
  | bigint
  | string
  | regex
  | array
  | object
deriving DecidableEq

namespace Kind

/-- The name of a kind in messages. -/
def name : Kind → String
  | undefined => "undefined"
  | null => "null"
  | boolean => "boolean"
  | number => "number"
  | bigint => "bigint"
  | string => "string"
  | regex => "regex"
  | array => "array"
  | object => "object"

/-- The type that a type condition tests: null, patterns and arrays count as objects. -/
def typeName : Kind → String
  | undefined => "undefined"
  | boolean => "boolean"
  | number => "number"
  | bigint => "bigint"
  | string => "string"
  | null => "object"
  | regex => "object"
  | array => "object"
  | object => "object"

end Kind

namespace Value

/-- The object that a list of entries makes. -/
def ofEntries (entries : List (String × Value)) : Value := .object (Fields.ofEntries entries)

/-- The kind of a value. -/
def kind : Value → Kind
  | undefined => .undefined
  | null => .null
  | bool _ => .boolean
  | number _ => .number
  | bigint _ => .bigint
  | string _ => .string
  | regex _ => .regex
  | array _ => .array
  | object _ => .object

/-- The value is undefined. -/
def isUndefined (v : Value) : Bool := v.kind == .undefined

/-- The value is undefined or null. -/
def isNullish (v : Value) : Bool := v.kind == .undefined || v.kind == .null

mutual
/-- No object in the value holds a key twice. -/
def WellFormed : Value → Prop
  | array items => WellFormedItems items
  | object fields => (fields.map Prod.fst).Nodup ∧ WellFormedFields fields
  | _ => True

/-- No object in any of the items holds a key twice. -/
def WellFormedItems : List Value → Prop
  | [] => True
  | v :: rest => v.WellFormed ∧ WellFormedItems rest

/-- No object in any of the fields holds a key twice. -/
def WellFormedFields : List (String × Value) → Prop
  | [] => True
  | (_, v) :: rest => v.WellFormed ∧ WellFormedFields rest
end

end Value

end RecordQuery
