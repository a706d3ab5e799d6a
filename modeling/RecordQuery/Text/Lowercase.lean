import RecordQuery.Text.LowercaseTable
import RecordQuery.Text.CasedTable

/-!
# Lowercase

The full lowercase of a text. Most characters map one to one. The dotted capital I becomes two
characters, and a capital sigma becomes the final form at the end of a word: where the nearest
character before it that is not case-ignorable is a letter with case and the nearest one after it
is not.
-/

namespace RecordQuery.Text

/-- The lowercase of a character standing alone. -/
def lowercaseChar (c : Char) : List Char :=
  if c = '\u0130' then ['i', '\u0307']
  else match lowercaseStretches.find? (·.contains c.toNat) with
    | some stretch => [Char.ofNat (c.toNat + stretch.shift).toNat]
    | none => [c]

/-- The first character that is not case-ignorable is a letter with case. -/
def reachesCased (cs : List Char) : Bool :=
  match cs.dropWhile isCaseIgnorable with
  | [] => false
  | c :: _ => isCased c

/-- The lowercase of the text that follows `before`, which is given last character first. -/
def lowercaseAfter (before : List Char) : List Char → List Char
  | [] => []
  | c :: rest =>
    let lowered :=
      if c = 'Σ' then [if reachesCased before && !reachesCased rest then 'ς' else 'σ']
      else lowercaseChar c
    lowered ++ lowercaseAfter (c :: before) rest

/-- The full lowercase of a text. -/
def lowercase (cs : List Char) : List Char := lowercaseAfter [] cs

end RecordQuery.Text
