import RecordQuery.Json.Numeral

/-!
# JSON tokens

A JSON text is a sequence of tokens between which only space, tab, line feed and carriage return
may stand. Reading is strict: a string holds no control character and no half of a surrogate pair.
-/

namespace RecordQuery.Json

/-- A token of a JSON text. -/
inductive Token where
  | openArray
  | closeArray
  | openObject
  | closeObject
  | comma
  | colon
  | null
  | bool (b : Bool)
  | number (n : Numeral)
  | string (s : String)

/-- The character may stand between tokens. -/
def isSpace (c : Char) : Bool := c == ' ' || c == '\t' || c == '\n' || c == '\r'

/-! ## Strings -/

/-- The character that a letter behind a backslash denotes. -/
def unescape? : Char → Option Char
  | '"' => some '"'
  | '\\' => some '\\'
  | '/' => some '/'
  | 'b' => some '\x08'
  | 'f' => some '\x0c'
  | 'n' => some '\n'
  | 'r' => some '\r'
  | 't' => some '\t'
  | _ => none

/-- The unit that four hexadecimal digits denote. -/
def unit? (a b c d : Char) : Option Nat := Text.digits? 16 [a, b, c, d]

/-- The first half of a surrogate pair. -/
def isHighHalf (unit : Nat) : Bool := 0xD800 ≤ unit && unit < 0xDC00

/-- The second half of a surrogate pair. -/
def isLowHalf (unit : Nat) : Bool := 0xDC00 ≤ unit && unit < 0xE000

/-- The character that the halves of a surrogate pair denote together. -/
def joinHalves (high low : Nat) : Char :=
  Char.ofNat (0x10000 + (high - 0xD800) * 0x400 + (low - 0xDC00))

/-- The rest of a string behind its opening quote, with what follows the closing one. `taken` holds
the characters so far, last first, and `pending` the first half of a pair that awaits its second. -/
def readString (taken : List Char) (pending : Option Nat) :
    List Char → Option (String × List Char)
  | '\\' :: 'u' :: a :: b :: c :: d :: rest =>
    match unit? a b c d, pending with
    | some low, some high =>
      if isLowHalf low then readString (joinHalves high low :: taken) none rest else none
    | some unit, none =>
      if isHighHalf unit then readString taken (some unit) rest
      else if isLowHalf unit then none
      else readString (Char.ofNat unit :: taken) none rest
    | none, _ => none
  | '\\' :: c :: rest =>
    match unescape? c, pending with
    | some c, none => readString (c :: taken) none rest
    | _, _ => none
  | '"' :: rest => if pending.isSome then none else some (String.ofList taken.reverse, rest)
  | c :: rest =>
    if c.toNat < 0x20 || c = '\\' || pending.isSome then none
    else readString (c :: taken) none rest
  | [] => none

/-! ## Tokens -/

/-- The token at the front of a text, with the rest. -/
def readToken : List Char → Option (Token × List Char)
  | '[' :: rest => some (.openArray, rest)
  | ']' :: rest => some (.closeArray, rest)
  | '\x7b' :: rest => some (.openObject, rest)
  | '\x7d' :: rest => some (.closeObject, rest)
  | ',' :: rest => some (.comma, rest)
  | ':' :: rest => some (.colon, rest)
  | '"' :: rest => (readString [] none rest).map fun (s, rest) => (.string s, rest)
  | 'n' :: 'u' :: 'l' :: 'l' :: rest => some (.null, rest)
  | 't' :: 'r' :: 'u' :: 'e' :: rest => some (.bool true, rest)
  | 'f' :: 'a' :: 'l' :: 's' :: 'e' :: rest => some (.bool false, rest)
  | cs => (readNumber cs).map fun (n, rest) => (.number n, rest)

/-- The tokens of a text of at most `fuel` characters, behind those taken, last first. -/
def tokensAfter (taken : List Token) : Nat → List Char → Option (List Token)
  | _, [] => some taken.reverse
  | 0, _ => none
  | fuel + 1, c :: rest =>
    if isSpace c then tokensAfter taken fuel rest
    else match readToken (c :: rest) with
      | some (token, rest) => tokensAfter (token :: taken) fuel rest
      | none => none

/-- The tokens of a text. -/
def tokens? (cs : List Char) : Option (List Token) := tokensAfter [] cs.length cs

end RecordQuery.Json
