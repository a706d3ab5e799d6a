import RecordQuery.Text.Lowercase

/-!
# Collation

Texts are put in order without regard to case, by code points. Texts that differ in case only are
put in the reverse order of their code points, which places lower case first.
-/

namespace RecordQuery.Text

/-- The lowercase form of a text that has an uppercase character, and any other text as it is. -/
def fold (s : String) : String :=
  if s.toList.any isUppercase then String.ofList (lowercase s.toList) else s

/-- The order of two texts. -/
def collate (a b : String) : Ordering := (compare (fold a) (fold b)).then (compare b a)

end RecordQuery.Text
