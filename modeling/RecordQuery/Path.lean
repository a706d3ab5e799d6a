import RecordQuery.Text.Quoted

/-!
# Paths

The keys that lead from the root of a specification or of a record to one of its parts, outermost
first. A path is written as a location in error messages, and as an expression in compiled sources.
-/

namespace RecordQuery

/-- The keys from the root down. -/
abbrev Path := List String

namespace Path

/-- The location in messages: the root sign and the keys, with dots between them. -/
def location (path : Path) : String := String.intercalate "." ("$" :: path)

/-- The access to one key of what stands before it, or to nothing if there is nothing. -/
def access (key : String) : String := "?.[" ++ Text.quote key ++ "]"

/-- The expression for the part of a root that the path leads to. -/
def expression (root : String) (path : Path) : String :=
  path.foldl (fun text key => text ++ access key) root

end Path

end RecordQuery
