import RecordQuery.Regex.Reader
import RecordQuery.Regex.Search

/-!
# Patterns

A `Pattern` is a regular expression with the source and flags that it was written with, and its
literal form is `/source/flags`. The expression is determined by the two texts, so patterns are
equal when their texts are. The flags `i`, `m` and `s` change how the source is read; `g`, `y`,
`u`, `d` and `v` are accepted and change nothing, because a test only asks whether there is a match.
-/

namespace RecordQuery

namespace Pattern

/-- Why a pattern is refused. -/
inductive Fault where
  /-- A flag that is none of the known ones. -/
  | unknownFlag (source flags : String) (flag : Char)
  /-- The source is no regular expression. -/
  | rejected (source flags : String) (cause : Regex.Fault)
  /-- The text is not of the form `/source/flags`. -/
  | notLiteral (text : String)
deriving DecidableEq

/-- The literal form of a source and its flags. -/
def literal (source flags : String) : String := "/" ++ source ++ "/" ++ flags

/-- The wording of a refusal, with the complaint about the source given. -/
def Fault.wording (complaint : Regex.Fault → String) : Fault → String
  | .unknownFlag source flags flag =>
    literal source flags ++ ": unknown flag '" ++ String.ofList [flag] ++ "'"
  | .rejected source flags cause => literal source flags ++ ": " ++ complaint cause
  | .notLiteral text => text ++ ": expected /source/flags"

/-- The reading flags that a text of flags switches on; the first unknown flag is the error. -/
def readingFlags (flags : Regex.Flags) : List Char → Except Char Regex.Flags
  | [] => .ok flags
  | 'i' :: rest => readingFlags { flags with ignoreCase := true } rest
  | 'm' :: rest => readingFlags { flags with multiLine := true } rest
  | 's' :: rest => readingFlags { flags with dotAll := true } rest
  | 'g' :: rest => readingFlags flags rest
  | 'y' :: rest => readingFlags flags rest
  | 'u' :: rest => readingFlags flags rest
  | 'd' :: rest => readingFlags flags rest
  | 'v' :: rest => readingFlags flags rest
  | flag :: _ => .error flag

/-- The expression that a source denotes under the flags. Flags are checked first. -/
def exprOf (source flags : String) : Except Fault Regex.Expr :=
  match readingFlags {} flags.toList with
  | .error flag => .error (.unknownFlag source flags flag)
  | .ok reading =>
    match Regex.Expr.parse reading source with
    | .error cause => .error (.rejected source flags cause)
    | .ok e => .ok e

end Pattern

/-- A regular expression with the texts that it was written with. -/
structure Pattern where
  /-- The text between the slashes. -/
  source : String
  /-- The text behind the second slash. -/
  flags : String
  /-- What the texts denote. -/
  expr : Regex.Expr
  /-- The texts denote the expression. -/
  exprOf_eq : Pattern.exprOf source flags = .ok expr

namespace Pattern

/-- Patterns with the same texts are equal. -/
theorem ext_texts {p q : Pattern} (source : p.source = q.source) (flags : p.flags = q.flags) :
    p = q := by
  obtain ⟨ps, pf, pe, hp⟩ := p
  obtain ⟨qs, qf, qe, hq⟩ := q
  simp only at source flags
  subst source flags
  rw [hp] at hq
  injection hq with he
  subst he
  rfl

instance : DecidableEq Pattern := fun p q =>
  if h : p.source = q.source ∧ p.flags = q.flags then isTrue (ext_texts h.1 h.2)
  else isFalse fun e => h (e ▸ ⟨rfl, rfl⟩)

/-- The pattern with a source and flags. -/
def withFlags (source flags : String) : Except Fault Pattern :=
  match h : exprOf source flags with
  | .ok e => .ok ⟨source, flags, e, h⟩
  | .error fault => .error fault

/-- The pattern with a source and no flags. -/
def ofSource (source : String) : Except Fault Pattern := withFlags source ""

/-- The parts of a text before and after its last slash. -/
def splitLastSlash? (cs : List Char) : Option (List Char × List Char) :=
  match cs.reverse.dropWhile (· != '/') with
  | [] => none
  | _ :: before => some (before.reverse, (cs.reverse.takeWhile (· != '/')).reverse)

/-- The pattern that a text of the form `/source/flags` denotes. The source may hold slashes: the
last one of the text ends it. -/
def ofLiteral (text : String) : Except Fault Pattern :=
  match text.toList with
  | '/' :: rest =>
    match splitLastSlash? rest with
    | some (source, flags) => withFlags (String.ofList source) (String.ofList flags)
    | none => .error (.notLiteral text)
  | _ => .error (.notLiteral text)

/-- The literal form of a pattern. -/
def text (p : Pattern) : String := literal p.source p.flags

/-- The pattern matches somewhere in the text. -/
def test (p : Pattern) (subject : String) : Bool := p.expr.matchesIn subject.toList

end Pattern

end RecordQuery
