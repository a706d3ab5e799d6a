/-!
# Quoted text

The written form of a string literal: it stands between double quotes, a quote and a backslash
are preceded by a backslash, and a control character is written by its letter or, where it has
none, by its code in four hexadecimal digits. Everything else stands for itself.
-/

namespace RecordQuery.Text

/-- The letter that names a character behind a backslash. -/
def escapeLetter? : Char → Option Char
  | '"' => some '"'
  | '\\' => some '\\'
  | '\x08' => some 'b'
  | '\x0c' => some 'f'
  | '\n' => some 'n'
  | '\r' => some 'r'
  | '\t' => some 't'
  | _ => none

/-- A hexadecimal digit in lower case. -/
def hexDigit (n : Nat) : Char := Nat.digitChar (n % 16)

/-- A character as it stands inside quotes. -/
def quoteChar (c : Char) : List Char :=
  match escapeLetter? c with
  | some letter => ['\\', letter]
  | none =>
    if c.toNat < 0x20 then ['\\', 'u', '0', '0', hexDigit (c.toNat / 16), hexDigit c.toNat]
    else [c]

/-- The characters of a text as they stand inside quotes. -/
def quoteChars (cs : List Char) : List Char := cs.flatMap quoteChar

/-- A text between quotes. -/
def quote (s : String) : String := String.ofList ('"' :: quoteChars s.toList ++ ['"'])

end RecordQuery.Text
