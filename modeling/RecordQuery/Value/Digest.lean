import RecordQuery.Value.Basic

/-!
# Digests

A digest is a word that equal values share, so that values with different digests need not be
compared. `Value.words` is the sequence that a mixing function reduces to that word. The entries of
an object are mixed one by one and combined by exclusive or, so that their order leaves no trace.
-/

namespace RecordQuery

/-- The word of a number: its bit pattern, with one pattern for both zeros. -/
def Number.word : Number → UInt64
  | .nan => 0x7FF8000000000000
  | .infinite negative => if negative then 0xFFF0000000000000 else 0x7FF0000000000000
  | .finite negative quanta _ =>
    if quanta = 0 then 0
    else
      let scale := quanta.log2 - 52
      let magnitude := scale * Nat.pow 2 52 + quanta / Nat.pow 2 scale
      UInt64.ofNat (if negative then Nat.pow 2 63 + magnitude else magnitude)

/-- The words of a text: its code points and an end mark that is none. -/
def Text.words (s : String) : List UInt64 :=
  s.toList.map (·.val.toUInt64) ++ [0xFFFFFFFF]

/-- The words of a wide integer, low half first. -/
def BigInt.words (n : BigInt) : List UInt64 :=
  [UInt64.ofNat (n.val % UInt64.size).toNat,
    UInt64.ofNat (n.val / UInt64.size % UInt64.size).toNat]

/-- The word that stands for a kind in front of the words of a value. -/
def Kind.word : Kind → UInt64
  | .undefined => 0
  | .null => 1
  | .boolean => 2
  | .number => 3
  | .bigint => 4
  | .string => 5
  | .regex => 6
  | .array => 7
  | .object => 8

namespace Value

mutual
/-- The words of a value, where `mix` reduces the words of an entry to one. -/
def words (mix : List UInt64 → UInt64) : Value → List UInt64
  | undefined => [Kind.undefined.word]
  | null => [Kind.null.word]
  | bool b => [Kind.boolean.word, b.toUInt64]
  | number n => [Kind.number.word, n.word]
  | bigint n => Kind.bigint.word :: n.words
  | string s => Kind.string.word :: Text.words s
  | regex p => Kind.regex.word :: Text.words p.source ++ Text.words p.flags
  | array items => Kind.array.word :: UInt64.ofNat items.length :: itemWords mix items
  | object fields => [Kind.object.word, UInt64.ofNat fields.length, entriesWord mix fields]

/-- The words of items, one after the other. -/
def itemWords (mix : List UInt64 → UInt64) : List Value → List UInt64
  | [] => []
  | v :: rest => v.words mix ++ itemWords mix rest

/-- The mixed entries of an object, combined without regard to their order. -/
def entriesWord (mix : List UInt64 → UInt64) : List (String × Value) → UInt64
  | [] => 0
  | (key, v) :: rest => mix (Text.words key ++ v.words mix) ^^^ entriesWord mix rest
end

/-- Words reduced to one. -/
def mixWords (words : List UInt64) : UInt64 :=
  words.foldl (fun h w => (h ^^^ w) * (0x9E3779B97F4A7C15 : UInt64) + (h >>> 29))
    0xCBF29CE484222325

/-- The digest of a value. -/
def digest (v : Value) : UInt64 := mixWords (v.words mixWords)

end Value

end RecordQuery
