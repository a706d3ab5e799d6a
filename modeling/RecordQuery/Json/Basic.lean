import RecordQuery.Fields
import RecordQuery.Number.Basic

/-!
# JSON values

Plain JSON, with the fields of objects in order. A number token without point and exponent keeps
its integer where 64 bits hold it; all other number tokens are doubles. A `Builder` says what the
reader makes of each construct, so that one reader serves plain JSON and every other type that can
be built from it.
-/

namespace RecordQuery

namespace Json

/-- What a number token denotes. -/
inductive Numeral where
  /-- A non-negative integer of 64 bits. -/
  | unsigned (n : UInt64)
  /-- A negative integer of 64 bits. -/
  | signed (n : Int64)
  /-- Any other number. -/
  | double (n : Number)

/-- The double that a number token denotes. -/
def Numeral.toNumber : Numeral → Number
  | unsigned n => .ofNat n.toNat
  | signed n => .ofInt n.toInt
  | double n => n

/-- What the reader makes of each construct. -/
structure Builder (α : Type) where
  /-- The null literal. -/
  null : α
  /-- The two truth literals. -/
  bool : Bool → α
  /-- A number token. -/
  number : Numeral → α
  /-- A string. -/
  string : String → α
  /-- An array of what was made of its items. -/
  array : List α → α
  /-- An object of its entries in the order of the text, repeated keys included. -/
  object : List (String × α) → α

end Json

/-- A plain JSON value. -/
inductive Json where
  | null
  | bool (b : Bool)
  | number (n : Json.Numeral)
  | string (s : String)
  | array (items : List Json)
  | object (fields : List (String × Json))

/-- Plain JSON, each key of an object once. -/
def Json.plain : Json.Builder Json where
  null := .null
  bool := .bool
  number := .number
  string := .string
  array := .array
  object entries := .object (Fields.ofEntries entries)

end RecordQuery
