import RecordQuery.CommandLine.Run

/-!
# Reports

What the program leaves behind: an exit code and the texts on standard output and standard error.
The exit code is 0 after a good run or a text that was asked for, 1 after a failed run and 2 if the
arguments are refused.
-/

namespace RecordQuery.CommandLine

/-- What is written for arguments that lead to no run. -/
def Halt.notice : Halt → String
  | .unknownArgument => "error: unexpected argument"
  | .invalidValue => "error: a value is required"
  | .valueValidation => "error: invalid value"
  | .argumentConflict => "error: arguments cannot be used together or more than once"
  | .tooManyValues => "error: unexpected value"
  | .displayVersion => "0.1.0"
  | .displayHelp =>
    "Filters and sorts JSON records.\n\n"
      ++ "  -f, --filter JSON   filter specification\n"
      ++ "  -s, --sort JSON     sort specification\n"
      ++ "      --explain       print the compiled filter and sort\n"
      ++ "  -c, --compact       print the output on a single line\n"
      ++ "      --max-depth N   maximum nesting depth of specifications\n"
      ++ "  -v, --verbose       log more\n"
      ++ "  -q, --quiet         log less\n"
      ++ "  -h, --help          print this text\n"
      ++ "  -V, --version       print the version"

/-- What is written about a failure: its messages, and the hint if there is one. -/
def Failure.notice (failure : Failure) : List String :=
  failure.chain failure.cause.message ++ failure.help?.toList.map ("help: " ++ ·)

/-- What the program leaves behind. -/
structure Report where
  exitCode : UInt32
  /-- The text on standard output. -/
  out : String
  /-- The text on standard error. -/
  err : String
deriving DecidableEq

/-- Lines with their ends. -/
def unlines (lines : List String) : String := String.join (lines.map (· ++ "\n"))

namespace Report

/-- What is left behind if the arguments lead to no run. -/
def ofHalt (halt : Halt) : Report :=
  match halt with
  | .displayHelp => ⟨0, unlines [halt.notice], ""⟩
  | .displayVersion => ⟨0, unlines [halt.notice], ""⟩
  | _ => ⟨2, "", unlines [halt.notice]⟩

/-- What is left behind by a run with a warning. -/
def ofOutcome (warning : String) : Except Failure String → Report
  | .ok text => ⟨0, text, warning⟩
  | .error failure => ⟨1, "", warning ++ unlines failure.notice⟩

end Report

section
variable {m : Type → Type} [Monad m]

/-- The program on its arguments. -/
def program (args : List String) (setting? : Option String) (read : String → m (Option String))
    (input : m (Option String)) : m Report :=
  match Arguments.read args with
  | .error halt => pure (.ofHalt halt)
  | .ok arguments => do
    let outcome ← perform arguments setting? read input
    return .ofOutcome (depthWarning setting?) outcome

end

/-- What the program leaves behind on texts that are given. -/
def report (args : List String) (setting? : Option String) (read : String → Option String)
    (input : Option String) : Report :=
  Id.run (program args setting? (fun file => pure (read file)) (pure input))

end RecordQuery.CommandLine
