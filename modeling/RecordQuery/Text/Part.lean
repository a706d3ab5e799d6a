/-!
# Parts of texts

A part of a text is a stretch of its characters; the empty text is a part of every text.
-/

namespace RecordQuery.Text

/-- The first characters are a stretch of the second. -/
def isPart (part : List Char) : List Char → Bool
  | [] => part.isEmpty
  | c :: rest => part.isPrefixOf (c :: rest) || isPart part rest

/-- The first text is a part of the second. -/
def occursIn (part s : String) : Bool := isPart part.toList s.toList

end RecordQuery.Text
