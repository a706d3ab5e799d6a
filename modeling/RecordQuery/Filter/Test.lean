import RecordQuery.Filter.Context
import RecordQuery.Query.Condition
import RecordQuery.Query.Verdict

/-!
# Tests

A test is a condition whose operands are written out: literals stand for values, and declared names
for sets. Its source is an expression in the expression for the value under test, and its verdict
uses what the context handed out for the operands.
-/

namespace RecordQuery

/-- A condition with its operands written out. -/
inductive Test where
  | equality (negated : Bool) (operand : Literal)
  | relation (r : Relation) (operand : Literal)
  | existence (expected : Bool)
  | pattern (negated : Bool) (operand : Literal) (p : Pattern)
  /-- An inclusion, or an overlap with a single value, as the operator says. -/
  | inclusion (negated : Bool) (operator : Operator) (operand : Literal)
  | bits (negated : Bool) (mask : Int32)
  | type (negated : Bool) (name : String)
  | membership (negated : Bool) (binding : Binding)
  | subset (negated : Bool) (binding : Binding)
  /-- A superset test: the text of the operand, and the place of the set of the value's elements. -/
  | superset (negated : Bool) (list : String) (index : Nat) (items : List Value)
  | overlap (negated : Bool) (binding : Binding)

/-- The source that makes a set of what another source denotes. -/
def ValueSet.fragment (elements : String) : String := "new Set(" ++ elements ++ ")"

namespace Context

/-- The shared set of a list of values. -/
def registerList (context : Context) (items : List Value) : Binding × Context :=
  let (text, context) := context.list items
  context.register (ValueSet.fragment text) fun _ => ValueSet.ofList items

/-- A condition with its operands written out, tested on what an expression denotes. -/
def test (context : Context) (expression : String) : Condition → Test × Context
  | .equality negated operand =>
    let (operand, context) := context.literal operand
    (.equality negated operand, context)
  | .relation r operand =>
    let (operand, context) := context.literal operand
    (.relation r operand, context)
  | .existence expected => (.existence expected, context)
  | .pattern negated p =>
    let (operand, context) := context.literal (.regex p)
    (.pattern negated operand p, context)
  | .inclusion negated operand =>
    let (operand, context) := context.literal operand
    (.inclusion negated (.inclusion negated) operand, context)
  | .bits negated mask => (.bits negated mask, context)
  | .type negated name => (.type negated name, context)
  | .membership negated items =>
    let (binding, context) := context.registerList items
    (.membership negated binding, context)
  | .subset negated items =>
    let (binding, context) := context.registerList items
    (.subset negated binding, context)
  | .superset negated items =>
    let (list, context) := context.list items
    let (index, context) := context.registerPerRecord (ValueSet.fragment expression)
    (.superset negated list index items, context)
  | .overlap negated (.array items) =>
    let (binding, context) := context.registerList items
    (.overlap negated binding, context)
  | .overlap negated operand =>
    let (operand, context) := context.literal operand
    (.inclusion negated (.overlap negated) operand, context)

end Context

namespace Test

/-- The test holds of a value. -/
def holds : Test → Value → Verdict
  | equality negated operand, v => .ok (negated ^^ v.strictEquals operand.value)
  | relation r operand, v => .ok (v.related r operand.value)
  | existence expected, v => .ok (v.existsAs expected)
  | pattern negated _ p, v => .ok (negated ^^ v.matchesPattern p)
  | inclusion negated operator operand, v => (v.includes operator operand.value).negateIf negated
  | bits negated mask, v => (v.hasBits (.bits negated) mask).negateIf negated
  | type negated name, v => .ok (negated ^^ v.isOfType name)
  | membership negated binding, v => .ok (negated ^^ binding.set.contains v)
  | subset negated binding, v =>
    (v.allItemsIn (.subset negated) binding.set.contains).negateIf negated
  | superset negated _ _ items, v =>
    match v.elements (.superset negated) with
    | .ok elements =>
      let present := ValueSet.ofList elements
      .ok (negated ^^ items.all present.contains)
    | .error e => .error e
  | overlap negated binding, v =>
    (v.overlapsWith (.overlap negated) binding.set.contains binding.set.members).negateIf negated

/-! ## Source -/

/-- The source of a negation, if asked for. -/
def negationSign (negated : Bool) : String := if negated then "!" else ""

/-- The sign of a comparison for identity. -/
def identitySign (negated : Bool) : String := if negated then "!==" else "==="

/-- The source of a test that all or some elements are members of a declared set. -/
def elementwise (elements quantifier name : String) : String :=
  elements ++ "." ++ quantifier ++ "((value) => " ++ name ++ ".has(value))"

/-- The source of a test on what an expression denotes. -/
def source (expression : String) : Test → String
  | equality negated operand =>
    "(" ++ expression ++ " " ++ identitySign negated ++ " " ++ operand.text ++ ")"
  | relation r operand => "(" ++ expression ++ " " ++ r.sign ++ " " ++ operand.text ++ ")"
  | existence expected =>
    "((" ++ expression ++ " !== undefined && " ++ expression ++ " !== null) === "
      ++ (if expected then "true" else "false") ++ ")"
  | pattern negated operand _ =>
    negationSign negated ++ operand.text ++ ".test('' + " ++ expression ++ ")"
  | inclusion negated _ operand =>
    negationSign negated ++ expression ++ ".includes(" ++ operand.text ++ ")"
  | bits negated mask =>
    let mask := Text.integer mask.toInt
    negationSign negated ++ "((" ++ expression ++ " & " ++ mask ++ ") === " ++ mask ++ ")"
  | type negated name =>
    "(typeof " ++ expression ++ " " ++ identitySign negated ++ " " ++ Text.quote name ++ ")"
  | membership negated binding =>
    negationSign negated ++ binding.name ++ ".has(" ++ expression ++ ")"
  | subset negated binding =>
    negationSign negated ++ elementwise expression "every" binding.name
  | superset negated list index _ =>
    negationSign negated ++ elementwise list "every" (Context.declaredName index)
  | overlap negated binding => negationSign negated ++ elementwise expression "some" binding.name

end Test

end RecordQuery
