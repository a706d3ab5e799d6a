import RecordQuery.CommandLine.Arguments
import RecordQuery.CommandLine.Records
import RecordQuery.Filter.Basic
import RecordQuery.Json.Writer
import RecordQuery.Ranking.Basic

/-!
# Runs

A run first prepares a job: it reads both specifications and compiles them. Then it either explains
the job, which reads no record, or answers with the selected records in order. Nothing is written
before everything has gone well. Texts are read in any monad, so that the run of the program and the
run on texts that are given are the same definition (`perform`).
-/

namespace RecordQuery.CommandLine

/-! ## The nesting bound -/

/-- The environment variable that sets the nesting bound. -/
def maxDepthVariable : String := "AJOQ_MAX_DEPTH"

/-- The nesting bound that the environment sets, blanks aside, if it is an unsigned integer. -/
def environmentDepth? (setting : String) : Option Nat :=
  readCount? (Text.trim setting.toList)

/-- What is written when the environment's nesting bound is unusable, and the default holds. -/
def depthWarning : Option String → String
  | none => ""
  | some setting =>
    if (environmentDepth? setting).isSome then ""
    else
      "Warning: Invalid " ++ maxDepthVariable ++ " value '" ++ setting ++ "', using default "
        ++ Text.decimal Specification.defaultMaxDepth ++ "\n"

/-- The nesting bound: the one from the arguments, else a usable one from the environment, else the
default. -/
def maxDepth (arguments : Arguments) (setting? : Option String) : Nat :=
  (arguments.maxDepth?.or (setting?.bind environmentDepth?)).getD Specification.defaultMaxDepth

/-! ## Preparation -/

/-- What a run does with records. -/
structure Job where
  filter : Filter
  ranking : Ranking
  /-- A sort specification was given. -/
  ranked : Bool
  form : Json.Form

/-- The failure that an error makes of a run. -/
def failWith {α : Type} (e : Error) : Except Failure α := .error ⟨[], .error e⟩

/-- The specification in the text of an option. -/
def readSpecification (occasion : Occasion) (text : String) : Except Failure Value :=
  match Json.read? text with
  | none => .error ⟨[occasion], .json⟩
  | some j =>
    match Value.ofSpecification j with
    | .ok v => .ok v
    | .error fault => .error ⟨[occasion], .error (.compile (.invalidPattern fault))⟩

/-- The filter that the arguments ask for. Without a specification it fits every record. -/
def readFilter (limit : Nat) (text? : Option String) : Except Failure Filter := do
  let specification ← match text? with
    | some text => readSpecification .filterOption text
    | none => .ok (.object [])
  match Filter.ofSpecification limit specification with
  | .ok filter => return filter
  | .error e => failWith (.compile e)

/-- The ranking that the arguments ask for. -/
def readRanking (limit : Nat) (text? : Option String) : Except Failure Ranking := do
  let specification? ← match text? with
    | some text => (readSpecification .sortOption text).map some
    | none => .ok none
  match Ranking.ofSpecification limit specification? with
  | .ok ranking => return ranking
  | .error e => failWith (.compile e)

/-- The job that the arguments ask for. -/
def prepare (arguments : Arguments) (limit : Nat) : Except Failure Job := do
  let filter ← readFilter limit arguments.filter?
  let ranking ← readRanking limit arguments.sort?
  return {
    filter
    ranking
    ranked := arguments.sort?.isSome
    form := if arguments.compact then .compact else .pretty }

/-! ## Output -/

namespace Job

/-- The sources of a job. -/
def explanation (job : Job) : String :=
  if job.ranked then
    "// filter\n" ++ job.filter.source ++ "\n// sort\n" ++ job.ranking.source ++ "\n"
  else job.filter.source ++ "\n"

/-- The records in texts, each of which comes from a file or from standard input. -/
def recordsOf : List (Option String × String) → Except Failure (List Value)
  | [] => .ok []
  | (file?, text) :: rest => do
    let first ← (readRecords text).mapError (Failure.on (.records file?))
    let more ← recordsOf rest
    return first ++ more

/-- What the job makes of texts. -/
def answer (job : Job) (texts : List (Option String × String)) : Except Failure String := do
  let records ← recordsOf texts
  match job.filter.select records with
  | .ok selected => return (Value.array (job.ranking.sort selected)).json job.form ++ "\n"
  | .error e => failWith (.eval e)

end Job

/-! ## Runs -/

section
variable {m : Type → Type} [Monad m]

/-- The texts of files, up to the first that cannot be read. -/
def textsOf (read : String → m (Option String)) :
    List String → m (Except Failure (List (Option String × String)))
  | [] => return .ok []
  | file :: rest => do
    match ← read file with
    | some text => return (← textsOf read rest).map ((some file, text) :: ·)
    | none => return .error ⟨[.opening file], .unreadable⟩

/-- The text on standard input. -/
def textOfInput (input : m (Option String)) :
    m (Except Failure (List (Option String × String))) := do
  match ← input with
  | some text => return .ok [(none, text)]
  | none => return .error ⟨[], .unreadable⟩

/-- The texts that a run is about: those of the files, or that on standard input if no file is
given. -/
def contents (arguments : Arguments) (read : String → m (Option String))
    (input : m (Option String)) : m (Except Failure (List (Option String × String))) :=
  if arguments.files.isEmpty then textOfInput input else textsOf read arguments.files

/-- The outcome of a run, where `read` gives the text of a readable file and `input` the text on
standard input, if that is readable. -/
def perform (arguments : Arguments) (setting? : Option String) (read : String → m (Option String))
    (input : m (Option String)) : m (Except Failure String) :=
  match prepare arguments (maxDepth arguments setting?) with
  | .error failure => pure (.error failure)
  | .ok job =>
    if arguments.explain then pure (.ok job.explanation)
    else do
      let texts ← contents arguments read input
      return texts.bind job.answer

end

/-- The outcome of a run on texts that are given. -/
def output (arguments : Arguments) (setting? : Option String) (read : String → Option String)
    (input : Option String) : Except Failure String :=
  Id.run (perform arguments setting? (fun file => pure (read file)) (pure input))

end RecordQuery.CommandLine
