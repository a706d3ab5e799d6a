import RecordQuery.Text.Numeral

/-!
# Arguments

The arguments are read from left to right. An option takes its value from the same argument, or
from the next one unless that looks like an option too; `--` makes everything behind it a file.
What an argument asks for is settled only when the next one has been recognized: an argument that
is not recognized is reported before a fault of its predecessor.
-/

namespace RecordQuery.CommandLine

/-- Why the arguments do not lead to a run. -/
inductive Halt where
  /-- An argument is not recognized. -/
  | unknownArgument
  /-- A value is missing or empty. -/
  | invalidValue
  /-- A value is not of the form that is needed. -/
  | valueValidation
  /-- Arguments exclude each other. -/
  | argumentConflict
  /-- A flag is given a value. -/
  | tooManyValues
  /-- The help text is asked for. -/
  | displayHelp
  /-- The version is asked for. -/
  | displayVersion
deriving DecidableEq

/-- An option with a value. -/
inductive Setting where
  | filter
  | sort
  | maxDepth
deriving DecidableEq

/-- An option without a value. -/
inductive Flag where
  | explain
  | compact
  | verbose
  | quiet
  | help
  | version
deriving DecidableEq

/-- What the arguments ask for. -/
structure Arguments where
  /-- The text of the filter specification. -/
  filter? : Option String
  /-- The text of the sort specification. -/
  sort? : Option String
  /-- The bound on the nesting of specifications. -/
  maxDepth? : Option Nat
  /-- Sources are written instead of records. -/
  explain : Bool
  /-- The output is written on one line. -/
  compact : Bool
  /-- More log lines are wanted. -/
  verbose : Bool
  /-- Fewer log lines are wanted. -/
  quiet : Bool
  /-- The files to read. -/
  files : List String
deriving DecidableEq

/-- An unsigned integer of 64 bits, in decimal digits behind an optional plus sign. -/
def readCount? (cs : List Char) : Option Nat :=
  (Text.readNat? 10 cs).filter (· < Nat.pow 2 64)

namespace Arguments

/-- Nothing is asked for. -/
def none : Arguments := ⟨.none, .none, .none, false, false, false, false, []⟩

/-- The arguments with the value of an option, which may be given once. -/
def set (arguments : Arguments) (value : String) : Setting → Except Halt Arguments
  | .filter =>
    if arguments.filter?.isSome then .error .argumentConflict
    else .ok { arguments with filter? := some value }
  | .sort =>
    if arguments.sort?.isSome then .error .argumentConflict
    else .ok { arguments with sort? := some value }
  | .maxDepth =>
    if arguments.maxDepth?.isSome then .error .argumentConflict
    else match readCount? value.toList with
      | some n => .ok { arguments with maxDepth? := some n }
      | .none => .error .valueValidation

/-- The arguments with a flag. -/
def raise (arguments : Arguments) : Flag → Except Halt Arguments
  | .explain =>
    if arguments.explain then .error .argumentConflict else .ok { arguments with explain := true }
  | .compact =>
    if arguments.compact then .error .argumentConflict else .ok { arguments with compact := true }
  | .verbose => .ok { arguments with verbose := true }
  | .quiet => .ok { arguments with quiet := true }
  | .help => .error .displayHelp
  | .version => .error .displayVersion

end Arguments

/-- An option of either sort. -/
inductive Named where
  | setting (s : Setting)
  | flag (f : Flag)
deriving DecidableEq

/-- The option that a letter stands for. -/
def Named.ofLetter? : Char → Option Named
  | 'f' => some (setting .filter)
  | 's' => some (setting .sort)
  | 'c' => some (flag .compact)
  | 'v' => some (flag .verbose)
  | 'q' => some (flag .quiet)
  | 'h' => some (flag .help)
  | 'V' => some (flag .version)
  | _ => none

/-- The option that a word stands for. -/
def Named.ofWord? : String → Option Named
  | "filter" => some (setting .filter)
  | "sort" => some (setting .sort)
  | "max-depth" => some (setting .maxDepth)
  | "explain" => some (flag .explain)
  | "compact" => some (flag .compact)
  | "verbose" => some (flag .verbose)
  | "quiet" => some (flag .quiet)
  | "help" => some (flag .help)
  | "version" => some (flag .version)
  | _ => none

/-- The arguments read so far. -/
structure Progress where
  /-- What is settled, and the files that are given. -/
  arguments : Arguments
  /-- The option given last with its value, if it has come, until they are settled. -/
  pending : Option (Setting × Option String)
  /-- Everything that follows is a file. -/
  filesOnly : Bool

namespace Progress

/-- Nothing is read. -/
def start : Progress := ⟨.none, none, false⟩

/-- The pending option is settled. -/
def settleOption (p : Progress) : Except Halt Progress :=
  match p.pending with
  | none => .ok p
  | some (_, none) => .error .invalidValue
  | some (setting, some value) =>
    (p.arguments.set value setting).map fun arguments => ⟨arguments, none, p.filesOnly⟩

/-- All that was read is settled. -/
def settle (p : Progress) : Except Halt Progress :=
  if p.arguments.files.any String.isEmpty then .error .invalidValue else p.settleOption

/-- A file is given. -/
def addFile (p : Progress) (file : String) : Except Halt Progress :=
  p.settleOption.map fun p =>
    { p with arguments := { p.arguments with files := p.arguments.files ++ [file] } }

/-- An option is given, with a value or without. -/
def addSetting (p : Progress) (setting : Setting) (value? : Option String) :
    Except Halt Progress := do
  let p ← p.settle
  match value? with
  | some value => return { p with arguments := ← p.arguments.set value setting }
  | none => return { p with pending := some (setting, none) }

/-- A flag is given. -/
def addFlag (p : Progress) (flag : Flag) : Except Halt Progress := do
  let p ← p.settle
  return { p with arguments := ← p.arguments.raise flag }

/-- Options are given by their letters; the first that takes a value takes the rest. -/
def addLetters (p : Progress) : List Char → Except Halt Progress
  | [] => .ok p
  | c :: rest =>
    match Named.ofLetter? c with
    | some (.setting setting) =>
      match rest with
      | [] => p.addSetting setting none
      | '=' :: value => p.addSetting setting (some (String.ofList value))
      | value => p.addSetting setting (some (String.ofList value))
    | some (.flag flag) =>
      match p.addFlag flag with
      | .ok p => p.addLetters rest
      | .error halt => .error halt
    | none => .error .unknownArgument

/-- An option is given by its word, with a value behind an equals sign or without. -/
def addWord (p : Progress) (cs : List Char) : Except Halt Progress :=
  let value? := match cs.dropWhile (· != '=') with
    | [] => none
    | _ :: value => some (String.ofList value)
  match Named.ofWord? (String.ofList (cs.takeWhile (· != '='))), value? with
  | some (.setting setting), value? => p.addSetting setting value?
  | some (.flag _), some _ => .error .tooManyValues
  | some (.flag flag), none => p.addFlag flag
  | none, _ => .error .unknownArgument

/-- An argument that is neither an option nor the end of options is given. -/
def addValue (p : Progress) (value : String) : Except Halt Progress :=
  match p.pending with
  | some (setting, none) => .ok { p with pending := some (setting, some value) }
  | _ => p.addFile value

/-- An argument is given. -/
def add (p : Progress) (argument : String) : Except Halt Progress :=
  if p.filesOnly then p.addFile argument
  else match argument.toList with
    | ['-', '-'] => .ok { p with filesOnly := true }
    | '-' :: '-' :: word => p.addWord word
    | ['-'] => p.addValue argument
    | '-' :: letters => p.addLetters letters
    | _ => p.addValue argument

end Progress

/-- What a list of arguments asks for. -/
def Arguments.read (arguments : List String) : Except Halt Arguments := do
  let p ← arguments.foldlM Progress.add .start
  let p ← p.settle
  if p.arguments.verbose && p.arguments.quiet then .error .argumentConflict
  return p.arguments

end RecordQuery.CommandLine
