import RecordQuery.Number.Text
import RecordQuery.Text.Quoted
import RecordQuery.Value.Set

/-!
# Compilation contexts

While a filter is compiled, its context collects what the compiled source refers to by name. Values
that cannot be written inline are kept in slots, one for each class of equal values; the first of a
class to arrive is the one that is kept. Fragments of source that make sets are declared, each once:
a shared one comes with the set that it makes, and one for each record comes without. Slots and
declarations keep the order of arrival, and their places are their names.
-/

namespace RecordQuery

/-- An operand as it is written in source, and the value that stands behind the text. -/
structure Literal where
  text : String
  value : Value

/-- A declared set that is built once. -/
structure Binding where
  /-- The place of its declaration. -/
  index : Nat
  set : ValueSet

/-- A fragment of source with a name. -/
inductive Declaration where
  /-- Makes the same set for all records. -/
  | shared (fragment : String) (set : ValueSet)
  /-- Makes a set for each record. -/
  | perRecord (fragment : String)

/-- The fragment that is declared. -/
def Declaration.fragment : Declaration → String
  | shared fragment _ => fragment
  | perRecord fragment => fragment

/-- What compiled source refers to by name. -/
structure Context where
  /-- The values that are not written inline. -/
  slots : List Value
  /-- The fragments that have names. -/
  declarations : List Declaration

namespace Context

/-- The context before anything is compiled. -/
def empty : Context := ⟨[], []⟩

/-! ## Slots -/

/-- The text that refers to a slot. -/
def slotText (index : Nat) : String := "scope[" ++ Text.decimal index ++ "]"

/-- The slot of a value equal to the given one: its place and what is kept there. -/
def slotOf? (context : Context) (v : Value) : Option (Value × Nat) :=
  context.slots.zipIdx.find? fun (kept, _) => kept == v

/-- The slot of a value, a new one if no equal value has one. -/
def scope (context : Context) (v : Value) : Literal × Context :=
  match context.slotOf? v with
  | some (kept, index) => (⟨slotText index, kept⟩, context)
  | none =>
    (⟨slotText context.slots.length, v⟩, { context with slots := context.slots ++ [v] })

/-- The text of a value that can be written inline. -/
def inlineText? : Value → Option String
  | .undefined => some "undefined"
  | .null => some "null"
  | .bool b => some (if b then "true" else "false")
  | .number n => some n.text
  | .string s => some (Text.quote s)
  | _ => none

/-- A value as it is written in source: inline if possible, and else by its slot. -/
def literal (context : Context) (v : Value) : Literal × Context :=
  match inlineText? v with
  | some text => (⟨text, v⟩, context)
  | none => context.scope v

/-- The texts of values as they are written in source. -/
def literalTexts (context : Context) : List Value → List String × Context
  | [] => ([], context)
  | v :: rest =>
    let (first, context) := context.literal v
    let (more, context) := context.literalTexts rest
    (first.text :: more, context)

/-- The text of a list of values. -/
def list (context : Context) (items : List Value) : String × Context :=
  let (texts, context) := context.literalTexts items
  ("[" ++ String.intercalate "," texts ++ "]", context)

/-! ## Declarations -/

/-- The name of a declaration. -/
def declaredName (index : Nat) : String := "v$" ++ Text.decimal index

/-- The shared set that a fragment makes, if it is declared. -/
def shared? (context : Context) (fragment : String) : Option Binding :=
  context.declarations.zipIdx.findSome? fun
    | (.shared declared set, index) => if declared = fragment then some ⟨index, set⟩ else none
    | (.perRecord _, _) => none

/-- The place of a fragment that makes a set for each record, if it is declared. -/
def perRecord? (context : Context) (fragment : String) : Option Nat :=
  context.declarations.zipIdx.findSome? fun
    | (.perRecord declared, index) => if declared = fragment then some index else none
    | (.shared _ _, _) => none

/-- The shared set that a fragment makes, by an action that is run only if the fragment is new. -/
def registerM {m : Type → Type} [Monad m] (context : Context) (fragment : String)
    (build : Unit → m ValueSet) : m (Binding × Context) :=
  match context.shared? fragment with
  | some binding => pure (binding, context)
  | none => do
    let set ← build ()
    return (⟨context.declarations.length, set⟩,
      { context with declarations := context.declarations ++ [.shared fragment set] })

/-- The shared set that a fragment makes. It is built only if the fragment is new. -/
def register (context : Context) (fragment : String) (build : Unit → ValueSet) :
    Binding × Context :=
  Id.run (context.registerM fragment fun _ => pure (build ()))

/-- The place of a fragment that makes a set for each record. -/
def registerPerRecord (context : Context) (fragment : String) : Nat × Context :=
  match context.perRecord? fragment with
  | some index => (index, context)
  | none =>
    (context.declarations.length,
      { context with declarations := context.declarations ++ [.perRecord fragment] })

/-- The lines of the declarations from an index on. -/
def linesFrom : Nat → List Declaration → String
  | _, [] => ""
  | index, declaration :: rest =>
    "const " ++ declaredName index ++ " = " ++ declaration.fragment ++ ";\n"
      ++ linesFrom (index + 1) rest

/-- The source of the declarations, one a line. -/
def source (context : Context) : String := linesFrom 0 context.declarations

end Context

/-- The name of a shared set. -/
def Binding.name (binding : Binding) : String := Context.declaredName binding.index

end RecordQuery
