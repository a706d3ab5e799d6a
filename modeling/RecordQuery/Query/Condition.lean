import RecordQuery.Error

/-!
# Conditions

A condition is an operator with an operand of the kind that the operator demands.
-/

namespace RecordQuery

/-- A condition on a value. -/
inductive Condition where
  | equality (negated : Bool) (operand : Value)
  | relation (r : Relation) (operand : Value)
  | existence (expected : Bool)
  | pattern (negated : Bool) (p : Pattern)
  | inclusion (negated : Bool) (operand : Value)
  | bits (negated : Bool) (mask : Int32)
  | type (negated : Bool) (name : String)
  | membership (negated : Bool) (items : List Value)
  | subset (negated : Bool) (items : List Value)
  | superset (negated : Bool) (items : List Value)
  | overlap (negated : Bool) (operand : Value)

namespace Condition

/-- The operator of a condition. -/
def operator : Condition → Operator
  | equality negated _ => .equality negated
  | relation r _ => .relation r
  | existence _ => .existence
  | pattern negated _ => .pattern negated
  | inclusion negated _ => .inclusion negated
  | bits negated _ => .bits negated
  | type negated _ => .type negated
  | membership negated _ => .membership negated
  | subset negated _ => .subset negated
  | superset negated _ => .superset negated
  | overlap negated _ => .overlap negated

/-! ## Reading operands -/

/-- The error of an operand that is not what the operator demands. -/
def refuse {α : Type} (operator : Operator) (path : Path) (demand : Demand) (operand : Value) :
    Except CompileError α :=
  .error (.invalidOperand path operator demand operand.kind)

/-- The items of an operand that must be an array. -/
def itemsOf (operator : Operator) (path : Path) : Value → Except CompileError (List Value)
  | .array items => .ok items
  | operand => refuse operator path .array operand

/-- The pattern of an operand that must be a pattern or the source of one. -/
def patternOf (operator : Operator) (path : Path) : Value → Except CompileError Pattern
  | .regex p => .ok p
  | .string source => (Pattern.ofSource source).mapError .invalidPattern
  | operand => refuse operator path .pattern operand

/-- The bits of an operand that must be a number. -/
def maskOf (operator : Operator) (path : Path) : Value → Except CompileError Int32
  | .number n => .ok n.toInt32
  | operand => refuse operator path .number operand

/-- The truth value of an operand that must be one. -/
def expectedOf (operator : Operator) (path : Path) : Value → Except CompileError Bool
  | .bool b => .ok b
  | operand => refuse operator path .boolean operand

/-- The type name of an operand that must be a text. -/
def typeNameOf (operator : Operator) (path : Path) : Value → Except CompileError String
  | .string name => .ok name
  | operand => refuse operator path .string operand

/-- The condition of an operator on an operand at a path. -/
def ofOperand (operator : Operator) (path : Path) (operand : Value) :
    Except CompileError Condition :=
  match operator with
  | .equality negated => .ok (equality negated operand)
  | .relation r => .ok (relation r operand)
  | .existence => (expectedOf operator path operand).map existence
  | .pattern negated => (patternOf operator path operand).map (pattern negated)
  | .inclusion negated => .ok (inclusion negated operand)
  | .bits negated => (maskOf operator path operand).map (bits negated)
  | .type negated => (typeNameOf operator path operand).map (type negated)
  | .membership negated => (itemsOf operator path operand).map (membership negated)
  | .subset negated => (itemsOf operator path operand).map (subset negated)
  | .superset negated => (itemsOf operator path operand).map (superset negated)
  | .overlap negated => .ok (overlap negated operand)

end Condition

end RecordQuery
