import RecordQuery.Json.Token

/-!
# Reading JSON

The reader goes over the tokens once and keeps the containers that are open on a stack. Its state
says what may come next; a text is read when its last token completes a value outside all
containers. No more containers may be open at once than the caller allows.
-/

namespace RecordQuery.Json

variable {α : Type}

/-- A container that is open, with its parts so far, last first. -/
inductive Frame (α : Type) where
  | array (items : List α)
  /-- An object whose entry under `key` awaits its value. -/
  | object (entries : List (String × α)) (key : String)

/-- What the reader is waiting for. -/
inductive State (α : Type) where
  /-- A value. -/
  | value (outer : List (Frame α))
  /-- The first item of an array or its end. -/
  | firstItem (outer : List (Frame α))
  /-- A key, or the end of the object if it may end here. -/
  | key (mayClose : Bool) (entries : List (String × α)) (outer : List (Frame α))
  /-- The colon behind a key. -/
  | colon (entries : List (String × α)) (key : String) (outer : List (Frame α))
  /-- What follows a complete value. -/
  | next (v : α) (outer : List (Frame α))

/-- The state after a token where a value may begin. -/
def State.begin (b : Builder α) (limit : Nat) (outer : List (Frame α)) : Token → Option (State α)
  | .null => some (.next b.null outer)
  | .bool t => some (.next (b.bool t) outer)
  | .number n => some (.next (b.number n) outer)
  | .string s => some (.next (b.string s) outer)
  | .openArray => if outer.length < limit then some (.firstItem outer) else none
  | .openObject => if outer.length < limit then some (.key true [] outer) else none
  | _ => none

/-- The state after a token. -/
def State.step (b : Builder α) (limit : Nat) : State α → Token → Option (State α)
  | .value outer, token => begin b limit outer token
  | .firstItem outer, .closeArray => some (.next (b.array []) outer)
  | .firstItem outer, token => begin b limit (.array [] :: outer) token
  | .key _ entries outer, .string name => some (.colon entries name outer)
  | .key true _ outer, .closeObject => some (.next (b.object []) outer)
  | .colon entries name outer, .colon => some (.value (.object entries name :: outer))
  | .next v (.array items :: outer), .comma => some (.value (.array (v :: items) :: outer))
  | .next v (.array items :: outer), .closeArray =>
    some (.next (b.array (v :: items).reverse) outer)
  | .next v (.object entries name :: outer), .comma =>
    some (.key false ((name, v) :: entries) outer)
  | .next v (.object entries name :: outer), .closeObject =>
    some (.next (b.object ((name, v) :: entries).reverse) outer)
  | _, _ => none

/-- The value that a sequence of tokens denotes. -/
def Builder.ofTokens? (b : Builder α) (limit : Nat) (tokens : List Token) : Option α :=
  match tokens.foldlM (State.step b limit) (.value []) with
  | some (.next v []) => some v
  | _ => none

/-- The value that a text denotes, if it is JSON with at most `limit` containers open at once. -/
def Builder.read? (b : Builder α) (limit : Nat) (text : String) : Option α :=
  (tokens? text.toList).bind (b.ofTokens? limit)

/-- The containers that may be open at once in a text from outside. -/
def depthLimit : Nat := 127

/-- The plain JSON value that a text denotes. -/
def read? (text : String) : Option Json := plain.read? depthLimit text

end RecordQuery.Json
