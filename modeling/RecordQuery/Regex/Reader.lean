import RecordQuery.Regex.Expr
import RecordQuery.Regex.Fault
import RecordQuery.Text.AlphabeticTable
import RecordQuery.Text.Numeral

/-!
# Reading a regular expression

A pattern is read from left to right. `State` holds the rest of the pattern, the flags in force,
the branches and operands read so far at the current level, and a frame for each group that is
still open. Every step takes at least one character, so the length of the pattern bounds the
number of steps.
-/

namespace RecordQuery.Regex

/-- The flags that change how a pattern is read. -/
structure Flags where
  /-- Letters match in both cases. -/
  ignoreCase : Bool := false
  /-- `^` and `$` match at line ends too. -/
  multiLine : Bool := false
  /-- `.` matches a line feed too. -/
  dotAll : Bool := false
  /-- A carriage return before a line feed belongs to the line end. -/
  fullLineEnds : Bool := false
  /-- Blanks and comments are skipped. -/
  verbose : Bool := false

/-- The text without blanks and comments at its front; a comment runs to the end of its line. -/
def skipVerbose (inComment : Bool) : List Char → List Char
  | [] => []
  | c :: rest =>
    if inComment then skipVerbose (c != '\n') rest
    else if Text.isBlank c then skipVerbose false rest
    else if c = '#' then skipVerbose true rest
    else c :: rest

/-- The text without what the flags say to skip at its front. -/
def Flags.skip (flags : Flags) (cs : List Char) : List Char :=
  if flags.verbose then skipVerbose false cs else cs

/-- The first character that is neither blank nor opens a comment. Blanks are passed over inside a
comment too, but the text of a comment is not. -/
def glanceVerbose (inComment : Bool) : List Char → Option Char
  | [] => none
  | c :: rest =>
    if Text.isBlank c then glanceVerbose inComment rest
    else if !inComment && c == '#' then glanceVerbose true rest
    else some c

/-- The character in sight behind a dash, which decides whether the dash makes a range. -/
def Flags.glance (flags : Flags) (cs : List Char) : Option Char :=
  if flags.verbose then glanceVerbose false cs else cs.head?

/-- The characters at the front that pass a test, with the rest; what the flags say to skip may
stand behind each of them. At most `fuel` characters are taken. -/
def Flags.span (flags : Flags) (test : Char → Bool) : Nat → List Char → List Char × List Char
  | 0, cs => ([], cs)
  | _, [] => ([], [])
  | fuel + 1, c :: rest =>
    if test c then
      let (taken, rest) := flags.span test fuel (flags.skip rest)
      (c :: taken, rest)
    else ([], c :: rest)

/-! ## Single characters and escapes -/

/-- The character is an ASCII letter. -/
def isLetter (c : Char) : Bool := c.isAlpha

/-- The expression for one character under the flags. -/
def Flags.charExpr (flags : Flags) (c : Char) : Expr :=
  if flags.ignoreCase && isLetter c then .oneOf (CharSet.foldCase [(c.toNat, c.toNat)])
  else .literal c

/-- The expression for `.` under the flags. -/
def Flags.dot (flags : Flags) : Expr :=
  if flags.dotAll then .oneOf (CharSet.complement [])
  else if flags.fullLineEnds then .oneOf (CharSet.complement [(0x0A, 0x0A), (0x0D, 0x0D)])
  else .oneOf (CharSet.complement [(0x0A, 0x0A)])

/-- The condition for `^` under the flags. -/
def Flags.startLook (flags : Flags) : Look :=
  if !flags.multiLine then .textStart
  else if flags.fullLineEnds then .fullLineStart
  else .lineStart

/-- The condition for `$` under the flags. -/
def Flags.endLook (flags : Flags) : Look :=
  if !flags.multiLine then .textEnd
  else if flags.fullLineEnds then .fullLineEnd
  else .lineEnd

/-- The character with a code point, if it is one. -/
def charOf? (point : Nat) : Option Char :=
  if point.isValidChar then some (Char.ofNat point) else none

/-- The character is a hexadecimal digit. -/
def isHexDigit (c : Char) : Bool := (Text.digitValue? c).isSome

/-- The character that hexadecimal digits denote. -/
def codeChar (digits : List Char) : Except Fault Char :=
  match (Text.digits? 16 digits).bind charOf? with
  | some c => .ok c
  | none => .error .codePoint

/-- A character code behind its letter: so many hexadecimal digits, or any number of them between
braces. -/
def readHex (flags : Flags) (width : Nat) (cs : List Char) : Except Fault (Char × List Char) :=
  match flags.skip cs with
  | '\x7b' :: inside => do
    let (digits, rest) := flags.span isHexDigit inside.length (flags.skip inside)
    match rest with
    | '\x7d' :: rest => return (← codeChar digits, flags.skip rest)
    | _ => .error .codePoint
  | inside => do
    let (digits, rest) := flags.span isHexDigit width inside
    if digits.length < width then .error .codePoint
    return (← codeChar digits, rest)

/-- The name of a word boundary, if what follows `\b` is one and no repetition. -/
def readBoundary (flags : Flags) (cs : List Char) : Except Fault (Look × List Char) :=
  let isNameChar (c : Char) : Bool := isLetter c || c == '-'
  match cs with
  | '\x7b' :: inside =>
    match flags.skip inside with
    | [] => .error .count
    | first :: more =>
      if isNameChar first then
        let (name, rest) := flags.span isNameChar inside.length (first :: more)
        match rest with
        | '\x7d' :: rest =>
          match String.ofList name with
          | "start" => .ok (.wordStart, rest)
          | "end" => .ok (.wordEnd, rest)
          | "start-half" => .ok (.afterNonWord, rest)
          | "end-half" => .ok (.beforeNonWord, rest)
          | other => .error (.boundaryName other)
        | _ => .error (.boundaryName (String.ofList name))
      else .ok (.wordBoundary, cs)
  | _ => .ok (.wordBoundary, cs)

/-- The class that a letter behind a backslash names. -/
def letterClass? : Char → Option CharSet
  | 'd' => some CharSet.digits
  | 's' => some CharSet.spaces
  | 'w' => some CharSet.word
  | 'D' => some CharSet.digits.complement
  | 'S' => some CharSet.spaces.complement
  | 'W' => some CharSet.word.complement
  | _ => none

/-- The control character that a letter behind a backslash names. -/
def letterControl? : Char → Option Char
  | 'a' => some '\x07'
  | 'f' => some '\x0c'
  | 't' => some '\t'
  | 'n' => some '\n'
  | 'r' => some '\r'
  | 'v' => some '\x0b'
  | _ => none

/-- An ASCII character that a backslash makes stand for itself: neither a letter nor a digit, and
not an angle bracket. -/
def isEscapable (c : Char) : Bool :=
  c.toNat < 0x80 && !c.isAlphanum && c != '<' && c != '>'

/-- An escape behind its backslash. -/
def readEscape (flags : Flags) : List Char → Except Fault (Expr × List Char)
  | [] => .error .danglingEscape
  | c :: rest =>
    let code (width : Nat) : Except Fault (Expr × List Char) := do
      let (value, rest) ← readHex flags width rest
      return (flags.charExpr value, rest)
    if c = 'x' then code 2
    else if c = 'u' then code 4
    else if c = 'U' then code 8
    else if isEscapable c then .ok (flags.charExpr c, rest)
    else match letterClass? c, letterControl? c with
      | some set, _ => .ok (.oneOf set, rest)
      | none, some control => .ok (flags.charExpr control, rest)
      | none, none =>
        match c with
        | 'A' => .ok (.look .textStart, rest)
        | 'z' => .ok (.look .textEnd, rest)
        | 'B' => .ok (.look .insideOrOutsideWord, rest)
        | '<' => .ok (.look .wordStart, rest)
        | '>' => .ok (.look .wordEnd, rest)
        | 'b' => do
          let (look, rest) ← readBoundary flags rest
          return (.look look, rest)
        | other => .error (.unknownEscape other)

/-! ## Classes -/

/-- A named class behind its opening bracket, if there is one: `:name:]` or `:^name:]`. -/
def namedClass? : List Char → Option (CharSet × List Char)
  | ':' :: inside =>
    let (negated, named) := match inside with
      | '^' :: rest => (true, rest)
      | rest => (false, rest)
    match named.dropWhile (· != ':') with
    | ':' :: ']' :: rest =>
      (CharSet.named? (String.ofList (named.takeWhile (· != ':')))).map fun set =>
        (if negated then set.complement else set, rest)
    | _ => none
  | _ => none

/-- One member of a class: a character or an escape. -/
def readMember (flags : Flags) : List Char → Except Fault (Expr × List Char)
  | [] => .error .unclosedClass
  | '\\' :: rest => readEscape flags rest
  | c :: rest => .ok (.literal c, rest)

/-- The characters that a member contributes. -/
def memberRanges : Expr → Except Fault (List (Nat × Nat))
  | .literal c => .ok [(c.toNat, c.toNat)]
  | .oneOf set => .ok set
  | _ => .error .classMember

/-- The character that a member denotes as the end of a range. -/
def memberChar : Expr → Except Fault Char
  | .literal c => .ok c
  | _ => .error .classMember

/-- A member of a class or a range between two members. A dash makes a range unless the end of
the class or another dash is in sight behind it. -/
def readRange (flags : Flags) (cs : List Char) : Except Fault (List (Nat × Nat) × List Char) := do
  let (first, rest) ← readMember flags cs
  let single : Except Fault (List (Nat × Nat) × List Char) := do
    return (← memberRanges first, flags.skip rest)
  match flags.skip rest with
  | [] => .error .unclosedClass
  | '-' :: behind =>
    let sight := flags.glance behind
    if sight = some ']' ∨ sight = some '-' then single
    else do
      let (last, rest) ← readMember flags (flags.skip behind)
      let low ← memberChar first
      let high ← memberChar last
      if high < low then .error .reversedRange else .ok ([(low.toNat, high.toNat)], rest)
  | _ => single

/-- The members of a class up to its closing bracket. -/
def readMembers (flags : Flags) :
    Nat → List (Nat × Nat) → List Char → Except Fault (List (Nat × Nat) × List Char)
  | 0, _, _ => .error .unclosedClass
  | fuel + 1, ranges, cs =>
    match flags.skip cs with
    | [] => .error .unclosedClass
    | ']' :: rest => .ok (ranges, rest)
    | '[' :: rest =>
      match namedClass? rest with
      | some (set, rest) => readMembers flags fuel (ranges ++ set) rest
      | none => .error .nestedClass
    | '&' :: '&' :: _ => .error (.classOperator '&')
    | '-' :: '-' :: _ => .error (.classOperator '-')
    | '~' :: '~' :: _ => .error (.classOperator '~')
    | other => do
      let (more, rest) ← readRange flags other
      readMembers flags fuel (ranges ++ more) rest

/-- A bracketed class behind its opening bracket. Dashes at its front stand for themselves, and so
does a closing bracket that would make it empty. -/
def readClass (flags : Flags) (cs : List Char) : Except Fault (Expr × List Char) := do
  let (negated, inside) := match flags.skip cs with
    | '^' :: rest => (true, flags.skip rest)
    | rest => (false, rest)
  let (dashes, inside) := flags.span (· == '-') inside.length inside
  let (leading, inside) := match dashes, inside with
    | [], ']' :: rest => ([(0x5D, 0x5D)], rest)
    | [], rest => ([], rest)
    | _, rest => ([(0x2D, 0x2D)], rest)
  let (ranges, rest) ← readMembers flags (inside.length + 1) leading inside
  let set := CharSet.ofRanges ranges
  let set := if flags.ignoreCase then set.foldCase else set
  return (.oneOf (if negated then set.complement else set), rest)

/-! ## Repetitions -/

/-- A repetition count, which fits in 32 bits; blanks around it are skipped. -/
def readCount (flags : Flags) (cs : List Char) : Except Fault (Nat × List Char) :=
  let (digits, rest) := flags.span Char.isDigit cs.length (cs.dropWhile Text.isBlank)
  match Text.digits? 10 digits with
  | some n =>
    if n < Nat.pow 2 32 then .ok (n, flags.skip (rest.dropWhile Text.isBlank)) else .error .count
  | none => .error .count

/-- The text behind a mark of laziness, which changes no answer. -/
def skipLazy : List Char → List Char
  | '?' :: rest => rest
  | cs => cs

/-- The bounds of a counted repetition behind its opening brace. -/
def readBounds (flags : Flags) (cs : List Char) :
    Except Fault ((Nat × Option Nat) × List Char) := do
  let (least, rest) ← readCount flags (flags.skip cs)
  let (most, rest) ← match rest with
    | ',' :: behind =>
      match flags.skip behind with
      | '\x7d' :: _ => pure (none, flags.skip behind)
      | upper => do
        let (most, rest) ← readCount flags upper
        pure (some most, rest)
    | other => pure (some least, other)
  match rest with
  | '\x7d' :: rest =>
    match most with
    | some most =>
      if most < least then .error (.reversedCount least most)
      else .ok ((least, some most), skipLazy (flags.skip rest))
    | none => .ok ((least, none), skipLazy (flags.skip rest))
  | _ => .error .count

/-! ## Groups -/

/-- Where a group began: what to return to when it closes. -/
structure Frame where
  /-- The flags in force outside the group. -/
  flags : Flags
  /-- The label of the group, if it is numbered. -/
  label : Option Label
  /-- The branches before the group, last first. -/
  branches : List Expr
  /-- The operands before the group, last first. -/
  operands : List Expr

/-- A pattern in the middle of being read. -/
structure State where
  /-- What is left to read. -/
  rest : List Char
  /-- The flags in force. -/
  flags : Flags
  /-- The finished branches of the current level, last first. -/
  branches : List Expr := []
  /-- The operands of the current branch, last first. -/
  operands : List Expr := []
  /-- The groups that are open, innermost first. -/
  frames : List Frame := []
  /-- The group names in use. -/
  names : List String := []
  /-- The numbered groups so far. -/
  groups : Nat := 0

/-- Groups nest this deep and no deeper. -/
def nestLimit : Nat := 50

/-- The automaton of a pattern may take this many bytes. -/
def sizeLimit : Nat := 10 * Nat.pow 2 20

/-- The expression of the current level. -/
def State.level (s : State) : Expr :=
  Expr.ofBranches (Expr.ofSequence s.operands.reverse :: s.branches).reverse

/-- The state with one more operand. -/
def State.push (s : State) (e : Expr) (rest : List Char) : State :=
  { s with rest, operands := e :: s.operands }

/-- The state inside a new group. -/
def State.enter (s : State) (label : Option Label) (flags : Flags) (rest : List Char) :
    Except Fault State :=
  if nestLimit < s.frames.length + 1 then .error .nestedTooDeeply
  else .ok { s with
    rest, flags
    branches := []
    operands := []
    frames := ⟨s.flags, label, s.branches, s.operands⟩ :: s.frames }

/-- The state inside a new numbered group, which may have a name. -/
def State.enterNumbered (s : State) (name : Option String) (rest : List Char) :
    Except Fault State :=
  ({ s with groups := s.groups + 1 }).enter (some ⟨s.groups + 1, name⟩) s.flags rest

/-- A group name up to its closing bracket: letters, digits, `_`, `.`, `[` and `]`, and no digit
or punctuation but `_` in front. -/
def readGroupName (cs : List Char) : Except Fault (String × List Char) :=
  let inside (c : Char) : Bool :=
    c == '_' || c == '.' || c == '[' || c == ']' || Text.isAlphanumeric c
  let name := cs.takeWhile inside
  match name, cs.dropWhile inside with
  | first :: _, '>' :: rest =>
    if first == '_' || Text.isAlphabetic first then .ok (String.ofList name, rest)
    else .error .groupName
  | _, _ => .error .groupName

/-- The flags with one of them switched, if the letter names one. -/
def Flags.switch? (flags : Flags) (on : Bool) : Char → Option Flags
  | 'i' => some { flags with ignoreCase := on }
  | 'm' => some { flags with multiLine := on }
  | 's' => some { flags with dotAll := on }
  | 'R' => some { flags with fullLineEnds := on }
  | 'x' => some { flags with verbose := on }
  | 'U' => some flags
  | 'u' => some flags
  | _ => none

/-- Inline flags up to `:` or `)`; the rest begins with the mark that ends them. -/
def readFlags (flags : Flags) (negated : Bool) (seen : List Char) :
    List Char → Except Fault (Flags × List Char)
  | [] => .error .unclosedFlags
  | c :: rest =>
    if c = ':' ∨ c = ')' then
      match seen with
      | '-' :: _ => .error .danglingNegation
      | _ => .ok (flags, c :: rest)
    else if c = '-' then
      if negated then .error .repeatedNegation else readFlags flags true (c :: seen) rest
    else match flags.switch? (!negated) c with
      | none => .error (.unknownFlag c)
      | some switched =>
        if seen.contains c then .error (.repeatedFlag c)
        else readFlags switched negated (c :: seen) rest

/-- A named group behind the opening bracket of its name. -/
def State.enterNamed (s : State) (cs : List Char) : Except Fault State := do
  let (name, rest) ← readGroupName cs
  if s.names.contains name then .error (.repeatedGroupName name)
  else ({ s with names := name :: s.names }).enterNumbered (some name) rest

/-- What an opening parenthesis begins: a group, or flags for the rest of the level. -/
def State.openGroup (s : State) (cs : List Char) : Except Fault State :=
  match s.flags.skip cs with
  | '?' :: '=' :: _ => .error .lookAround
  | '?' :: '!' :: _ => .error .lookAround
  | '?' :: '<' :: '=' :: _ => .error .lookAround
  | '?' :: '<' :: '!' :: _ => .error .lookAround
  | '?' :: 'P' :: '<' :: rest => s.enterNamed rest
  | '?' :: '<' :: rest => s.enterNamed rest
  | '?' :: inside => do
    let (flags, rest) ← readFlags s.flags false [] inside
    match rest with
    | ')' :: behind =>
      if rest.length = inside.length then .error .emptyFlags
      else .ok { s with rest := behind, flags }
    | _ => s.enter none flags (rest.drop 1)
  | rest => s.enterNumbered none rest

/-- The state outside the group that closes. -/
def State.closeGroup (s : State) (rest : List Char) : Except Fault State :=
  match s.frames with
  | [] => .error .unopenedGroup
  | frame :: frames =>
    let e := match frame.label with
      | some label => .group label s.level
      | none => s.level
    .ok { s with
      rest, frames
      flags := frame.flags
      branches := frame.branches
      operands := e :: frame.operands }

/-- The state with its last operand repeated. -/
def State.repeatLast (s : State) (least : Nat) (most : Option Nat) (rest : List Char) :
    Except Fault State :=
  match s.operands with
  | [] => .error .nothingToRepeat
  | e :: operands =>
    .ok { s with rest, operands := Expr.ofRepetition least most e :: operands }

/-! ## The whole pattern -/

/-- One step of reading: what the next character begins. -/
def State.step (s : State) (c : Char) (rest : List Char) : Except Fault State :=
  match c with
  | '(' => s.openGroup rest
  | ')' => s.closeGroup rest
  | '|' =>
    .ok { s with
      rest
      branches := Expr.ofSequence s.operands.reverse :: s.branches
      operands := [] }
  | '[' => do
    let (e, rest) ← readClass s.flags rest
    return s.push e rest
  | '?' => s.repeatLast 0 (some 1) (skipLazy rest)
  | '*' => s.repeatLast 0 none (skipLazy rest)
  | '+' => s.repeatLast 1 none (skipLazy rest)
  | '\x7b' => do
    if s.operands.isEmpty then .error .nothingToRepeat
    let ((least, most), rest) ← readBounds s.flags rest
    s.repeatLast least most rest
  | '\\' => do
    let (e, rest) ← readEscape s.flags rest
    return s.push e rest
  | '.' => .ok (s.push s.flags.dot rest)
  | '^' => .ok (s.push (.look s.flags.startLook) rest)
  | '$' => .ok (s.push (.look s.flags.endLook) rest)
  | c => .ok (s.push (s.flags.charExpr c) rest)

/-- Reading to the end of the pattern, in at most so many steps. -/
def State.run : Nat → State → Except Fault State
  | 0, s => .ok s
  | fuel + 1, s =>
    match s.flags.skip s.rest with
    | [] => .ok s
    | c :: rest => do (← s.step c rest).run fuel

/-- The expression that a pattern denotes under the flags. -/
def Expr.parse (flags : Flags) (source : String) : Except Fault Expr := do
  let start : State := { rest := source.toList, flags }
  let s ← start.run source.toList.length
  if !s.frames.isEmpty then .error .unclosedGroup
  let e := s.level
  if nestLimit < e.nesting then .error .nestedTooDeeply
  if sizeLimit < e.totalSize then .error .tooLarge
  return e

end RecordQuery.Regex
