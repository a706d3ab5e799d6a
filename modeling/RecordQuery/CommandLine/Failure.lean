import RecordQuery.Error

/-!
# Failures

A run that fails says on which occasions, from the outermost one in, and why.
-/

namespace RecordQuery.CommandLine

/-- What the run was about. -/
inductive Occasion where
  /-- The filter specification is read. -/
  | filterOption
  /-- The sort specification is read. -/
  | sortOption
  /-- A file is opened. -/
  | opening (file : String)
  /-- The records of a file, or of standard input, are read. -/
  | records (file? : Option String)
  /-- The record on a line is read. -/
  | line (number : Nat)
deriving DecidableEq

/-- The message that names an occasion. -/
def Occasion.message : Occasion → String
  | filterOption => "invalid --filter"
  | sortOption => "invalid --sort"
  | opening file => "failed to open " ++ file
  | records file? => "failed to read records from " ++ file?.getD "stdin"
  | line number => "invalid record on line " ++ Text.decimal number

/-- Why a run fails. -/
inductive Cause where
  /-- A text is not JSON. -/
  | json
  /-- A file, or standard input, cannot be read as text. -/
  | unreadable
  /-- A specification is refused, or a filter fails. -/
  | error (e : Error)
deriving DecidableEq

/-- A failure of a run. -/
structure Failure where
  /-- The occasions, outermost first. -/
  occasions : List Occasion
  /-- The cause. -/
  cause : Cause
deriving DecidableEq

namespace Failure

/-- The failure on a further occasion around it. -/
def on (occasion : Occasion) (failure : Failure) : Failure :=
  { failure with occasions := occasion :: failure.occasions }

/-- The messages from the outermost one in, with that of the cause given. -/
def chain (failure : Failure) (cause : String) : List String :=
  failure.occasions.map Occasion.message ++ [cause]

/-- The code of the error behind the failure. -/
def code? (failure : Failure) : Option String :=
  match failure.cause with
  | .error e => some e.code
  | _ => none

/-- The hint of the error behind the failure. -/
def help? (failure : Failure) : Option String :=
  match failure.cause with
  | .error e => e.help?
  | _ => none

end Failure

/-- The message of a cause. -/
def Cause.message : Cause → String
  | json => "the text is not valid JSON"
  | unreadable => "the input cannot be read as text"
  | error e => e.message

end RecordQuery.CommandLine
