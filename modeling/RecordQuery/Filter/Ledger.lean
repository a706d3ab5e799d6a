import RecordQuery.Filter.Context

/-!
# Ledgers

A ledger is a compilation context with what a compiler looks up in it at hand: besides the slots and
the lines of the declarations there are a counter that names are made of, a cache of the sets that
are shared, one of the names of those that are not, and an index that leads from a value to its
slot. All of these have to go together, which nothing in a ledger itself sees to: an index that
leads to a slot that is not there leaves nothing to answer.
-/

namespace RecordQuery

/-! ## Caches -/

/-- What is kept under keys, each with its digest. Only keys with the digest of a key are compared
with it. -/
structure Cache (κ α : Type) where
  entries : List (UInt64 × κ × α)

namespace Cache

variable {κ α : Type}

/-- The cache in which nothing is kept. -/
def empty : Cache κ α := ⟨[]⟩

/-- What is kept under a key equal to the given one. -/
def find? [BEq κ] (digest : κ → UInt64) (cache : Cache κ α) (key : κ) : Option α :=
  let d := digest key
  cache.entries.findSome? fun (d', kept, a) => if d' == d && kept == key then some a else none

/-- The cache with something kept under a further key. -/
def insert (digest : κ → UInt64) (cache : Cache κ α) (key : κ) (a : α) : Cache κ α :=
  ⟨(digest key, key, a) :: cache.entries⟩

end Cache

/-- The digest of a text. -/
def Text.digest (s : String) : UInt64 := Value.mixWords (Text.words s)

/-! ## Ledgers -/

/-- A shared set under its name. -/
structure NamedSet where
  name : String
  set : ValueSet

/-- What compiled source refers to by name, with what is looked up. -/
structure Ledger where
  /-- The number of the next declaration. -/
  counter : Nat
  /-- The lines of the declarations. -/
  declarations : List String
  /-- The shared sets, under their fragments. -/
  bindings : Cache String NamedSet
  /-- The names of the sets for each record, under their fragments. -/
  perRecord : Cache String String
  /-- The values that are not written inline. -/
  slots : List Value
  /-- The places of the slots, under their values. -/
  slotIndex : Cache Value Nat

namespace Ledger

/-- The ledger before anything is compiled. -/
def empty : Ledger := ⟨0, [], .empty, .empty, [], .empty⟩

/-- The slot of a value, a new one if no equal value has one. There is no answer if the index leads
to no slot. -/
def scope (ledger : Ledger) (v : Value) : Option (Literal × Ledger) :=
  match ledger.slotIndex.find? Value.digest v with
  | some index => ledger.slots[index]?.map fun kept => (⟨Context.slotText index, kept⟩, ledger)
  | none =>
    let index := ledger.slots.length
    some (⟨Context.slotText index, v⟩, { ledger with
      slots := ledger.slots ++ [v]
      slotIndex := ledger.slotIndex.insert Value.digest v index })

/-- A value as it is written in source: inline if possible, and else by its slot. -/
def literal (ledger : Ledger) (v : Value) : Option (Literal × Ledger) :=
  match Context.inlineText? v with
  | some text => some (⟨text, v⟩, ledger)
  | none => ledger.scope v

/-- The texts of values as they are written in source. -/
def literalTexts (ledger : Ledger) : List Value → Option (List String × Ledger)
  | [] => some ([], ledger)
  | v :: rest => do
    let (first, ledger) ← ledger.literal v
    let (more, ledger) ← ledger.literalTexts rest
    return (first.text :: more, ledger)

/-- The text of a list of values. -/
def list (ledger : Ledger) (items : List Value) : Option (String × Ledger) := do
  let (texts, ledger) ← ledger.literalTexts items
  return ("[" ++ String.intercalate "," texts ++ "]", ledger)

/-- The line that declares a fragment under a name. -/
def line (name fragment : String) : String := "const " ++ name ++ " = " ++ fragment ++ ";"

/-- The next name, declared to stand for a fragment. -/
def declare (ledger : Ledger) (fragment : String) : String × Ledger :=
  let name := Context.declaredName ledger.counter
  (name, { ledger with
    counter := ledger.counter + 1
    declarations := ledger.declarations ++ [line name fragment] })

/-- The shared set that a fragment makes, by an action that is run only if the fragment is new. -/
def registerM {m : Type → Type} [Monad m] (ledger : Ledger) (fragment : String)
    (build : Unit → m ValueSet) : m (NamedSet × Ledger) :=
  match ledger.bindings.find? Text.digest fragment with
  | some named => pure (named, ledger)
  | none => do
    let (name, ledger) := ledger.declare fragment
    let set ← build ()
    return (⟨name, set⟩, { ledger with
      bindings := ledger.bindings.insert Text.digest fragment ⟨name, set⟩ })

/-- The name of a fragment that makes a set for each record. -/
def registerPerRecord (ledger : Ledger) (fragment : String) : String × Ledger :=
  match ledger.perRecord.find? Text.digest fragment with
  | some name => (name, ledger)
  | none =>
    let (name, ledger) := ledger.declare fragment
    (name, { ledger with perRecord := ledger.perRecord.insert Text.digest fragment name })

/-- The source of the declarations, one a line. -/
def source (ledger : Ledger) : String := String.join (ledger.declarations.map (· ++ "\n"))

end Ledger

end RecordQuery
