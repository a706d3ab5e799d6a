import RecordQuery.Error
import RecordQuery.Text.Part
import RecordQuery.Value.Access
import RecordQuery.Value.Equality
import RecordQuery.Value.Order

/-!
# Verdicts

A verdict says whether a value fits, or why that cannot be said. Verdicts combine from left to
right, and what follows a decision is not looked at: an error behind it does not count. Each sort
of condition has its verdict on a value here. Operands that are sets enter as membership tests, so
that nothing depends on how a set is kept.
-/

namespace RecordQuery

/-- Whether a value fits, or why that cannot be said. -/
abbrev Verdict := Except EvalError Bool

namespace Verdict

/-- The opposite verdict, if asked for. -/
def negateIf (negated : Bool) : Verdict → Verdict
  | .ok b => .ok (negated ^^ b)
  | .error e => .error e

/-- Both fit. The second counts only if the first fits. -/
@[macro_inline] def both (first second : Verdict) : Verdict :=
  match first with
  | .ok true => second
  | .ok false => .ok false
  | .error e => .error e

/-- One of the two fits. The second counts only if the first does not fit. -/
@[macro_inline] def either (first second : Verdict) : Verdict :=
  match first with
  | .ok true => .ok true
  | .ok false => second
  | .error e => .error e

/-- The opposite of the opposite is the verdict itself. -/
theorem negateIf_negateIf (negated : Bool) (a : Verdict) :
    (a.negateIf negated).negateIf negated = a := by
  cases a with
  | error => rfl
  | ok b => cases negated <;> cases b <;> rfl

/-- Deciding from left to right, it does not matter how both are grouped. -/
theorem both_assoc (a b c : Verdict) : (a.both b).both c = a.both (b.both c) := by
  cases a with
  | error => rfl
  | ok x => cases x <;> rfl

/-- Deciding from left to right, it does not matter how either is grouped. -/
theorem either_assoc (a b c : Verdict) : (a.either b).either c = a.either (b.either c) := by
  cases a with
  | error => rfl
  | ok x => cases x <;> rfl

/-- Not both fit when the first does not or the second does not. -/
theorem negateIf_both (a b : Verdict) :
    (a.both b).negateIf true = (a.negateIf true).either (b.negateIf true) := by
  cases a with
  | error => rfl
  | ok x => cases x <;> rfl

/-- Neither fits when the first does not and the second does not. -/
theorem negateIf_either (a b : Verdict) :
    (a.either b).negateIf true = (a.negateIf true).both (b.negateIf true) := by
  cases a with
  | error => rfl
  | ok x => cases x <;> rfl

end Verdict

namespace Value

/-- The value lies so to the operand; unordered values lie in no relation. -/
def related (v : Value) (r : Relation) (operand : Value) : Bool :=
  match v.order? operand with
  | some o => r.accepts o
  | none => false

/-- The value is neither undefined nor null, or the opposite is expected. -/
def existsAs (v : Value) (expected : Bool) : Bool := !v.isNullish == expected

/-- The text of the value matches; undefined and null have texts too. -/
def matchesPattern (v : Value) (p : Pattern) : Bool := p.test v.text

/-- The value is of the type of that name. -/
def isOfType (v : Value) (name : String) : Bool := v.kind.typeName == name

/-- The value has all bits of the mask. -/
def hasBits (v : Value) (operator : Operator) (mask : Int32) : Verdict :=
  match v with
  | bigint _ => .error (.bigintMix operator)
  | _ => .ok (v.toNumber.toInt32 &&& mask == mask)

/-- An array has an item equal to the operand; a text has the operand's text as a part. -/
def includes (v : Value) (operator : Operator) (operand : Value) : Verdict :=
  match v with
  | array items => .ok (items.any fun item => item == operand)
  | string s => .ok (Text.occursIn operand.text s)
  | _ => .error (.notIncludable operator v.kind)

/-- All items of an array are members. -/
def allItemsIn (v : Value) (operator : Operator) (isMember : Value → Bool) : Verdict :=
  match v with
  | array items => .ok (items.all isMember)
  | _ => .error (.notAnArray operator v.kind)

/-- An array has an item that is a member; a text has the text of one of the members as a part. -/
def overlapsWith (v : Value) (operator : Operator) (isMember : Value → Bool)
    (members : List Value) : Verdict :=
  match v with
  | array items => .ok (items.any isMember)
  | string s => .ok (members.any fun member => Text.occursIn member.text s)
  | _ => .error (.notIncludable operator v.kind)

/-- What a value can be iterated over: the items of an array, the characters of a text, and nothing
for a value that is not there. -/
def elements (v : Value) (operator : Operator) : Except EvalError (List Value) :=
  match v with
  | array items => .ok items
  | string s => .ok (s.toList.map fun c => string (String.ofList [c]))
  | undefined => .ok []
  | null => .ok []
  | _ => .error (.notIterable operator v.kind)

end Value

end RecordQuery
