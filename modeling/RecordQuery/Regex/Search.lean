import RecordQuery.Regex.Chart

/-!
# Searching a text

`Expr.place` looks up in the chart of a text where each part of an expression is met,
`Placed.advance` takes the positions where a match may begin to the positions where it may end, and
a text matches when some position is reached from any beginning.

The ends of a union of beginnings are the union of their ends, so nothing is lost when a loop passes
over beginnings that it has met before. A `Trail` keeps those, and a loop is entered at most once at
each position however deep it lies in other loops. All answers of one search with one trail
together are the ends of all beginnings it was given.

A position never moves backward. A repetition of more than `length + 1` rounds therefore stands
still in one of them, and further rounds reach no other positions.
-/

namespace RecordQuery.Regex

/-! ## Placing an expression in a text -/

/-- An expression placed in a text: each character, set and condition is replaced by the positions
where it is met. -/
inductive Placed where
  /-- Passes over one of the characters behind the positions. -/
  | pass (places : Nat)
  /-- Stands still at any of the positions. -/
  | stay (places : Nat)
  /-- One operand after the other. -/
  | concat (operands : List Placed)
  /-- Any one of the operands. -/
  | alternation (operands : List Placed)
  /-- The operand so many times. -/
  | times (count : Nat) (operand : Placed)
  /-- The operand once or more. -/
  | loop (operand : Placed)

namespace Placed

/-- Stands still anywhere. -/
def empty : Placed := .concat []

/-- The operand once or not at all. -/
def optional (operand : Placed) : Placed := .alternation [empty, operand]

/-- A repetition in a text of `length` characters. -/
def ofRepetition (length least : Nat) (most : Option Nat) (operand : Placed) : Placed :=
  let times (count : Nat) := Placed.times (min count (length + 1))
  match least, most with
  | 0, none => (Placed.loop operand).optional
  | least + 1, none => .concat [times least operand, .loop operand]
  | least, some most => .concat [times least operand, times (most - least) operand.optional]

end Placed

mutual
/-- The expression placed in a text. -/
def Expr.place (chart : Chart) : Expr → Placed
  | .empty => .empty
  | .literal c => .pass (chart.before (· == c))
  | .oneOf set => .pass (chart.before fun c => set.contains c.toNat)
  | .look condition => .stay (condition.positions chart)
  | .repetition least most operand =>
    .ofRepetition chart.length least most (operand.place chart)
  | .group _ operand => operand.place chart
  | .concat operands => .concat (placeOf chart operands)
  | .alternation operands => .alternation (placeOf chart operands)

/-- The operands placed in a text. -/
def Expr.placeOf (chart : Chart) : List Expr → List Placed
  | [] => []
  | e :: rest => e.place chart :: placeOf chart rest
end

/-! ## Trails -/

/-- What a search remembers of a placed expression. -/
inductive Trail where
  /-- Nothing yet. -/
  | fresh
  /-- The positions at which a loop has been entered, with the trail of its operand. -/
  | loop (entered : Nat) (inner : Trail)
  /-- The trails of the parts that have been reached. -/
  | parts (trails : List Trail)

namespace Trail

/-- The trails of the parts. -/
def trails : Trail → List Trail
  | .parts trails => trails
  | _ => []

/-- The positions at which a loop has been entered. -/
def entered : Trail → Nat
  | .loop entered _ => entered
  | _ => 0

/-- The trail of the operand of a loop. -/
def inner : Trail → Trail
  | .loop _ inner => inner
  | _ => .fresh

end Trail

/-- So many runs of one walk, each with a trail of its own; `taken` holds the trails of the runs
so far, last first. -/
def walkTimes (walk : Trail → Nat → Trail × Nat) :
    Nat → List Trail → List Trail → Nat → List Trail × Nat
  | 0, taken, trails, positions => (taken.reverse ++ trails, positions)
  | count + 1, taken, trails, positions =>
    if positions = 0 then (taken.reverse ++ trails, 0)
    else
      let (trail, ends) := walk (trails.headD .fresh) positions
      walkTimes walk count (trail :: taken) trails.tail ends

/-- The ends of a loop that starts at the given positions and has been entered at others; `found`
holds the ends so far. Every round but the last enters at a new position. -/
def walkLoop (walk : Trail → Nat → Trail × Nat) :
    Nat → Nat → Trail → Nat → Nat → Trail × Nat
  | 0, entered, inner, _, found => (.loop entered inner, found)
  | fuel + 1, entered, inner, starts, found =>
    let unentered := without starts entered
    if unentered = 0 then (.loop entered inner, found)
    else
      let (inner, ends) := walk inner unentered
      walkLoop walk fuel (entered ||| unentered) inner ends (found ||| ends)

/-! ## Searching -/

mutual
/-- The positions where a match may end that begins at one of the given positions, in a text of
`length` characters. -/
def Placed.advance (length : Nat) : Placed → Trail → Nat → Trail × Nat
  | .pass places, trail, starts => (trail, (starts &&& places) <<< 1)
  | .stay places, trail, starts => (trail, starts &&& places)
  | .concat operands, trail, starts =>
    let (trails, ends) := Placed.advanceThrough length operands trail.trails starts
    (.parts trails, ends)
  | .alternation operands, trail, starts =>
    let (trails, ends) := Placed.advanceAlong length operands trail.trails starts
    (.parts trails, ends)
  | .times count operand, trail, starts =>
    let (trails, ends) :=
      walkTimes (fun trail starts => operand.advance length trail starts) count []
        trail.trails starts
    (.parts trails, ends)
  | .loop operand, trail, starts =>
    walkLoop (fun trail starts => operand.advance length trail starts) (length + 1)
      trail.entered trail.inner starts 0

/-- The ends of one operand after the other. -/
def Placed.advanceThrough (length : Nat) :
    List Placed → List Trail → Nat → List Trail × Nat
  | [], trails, starts => (trails, starts)
  | p :: rest, trails, starts =>
    if starts = 0 then (trails, 0)
    else
      let (trail, ends) := p.advance length (trails.headD .fresh) starts
      let (trails, ends) := advanceThrough length rest trails.tail ends
      (trail :: trails, ends)

/-- The ends of any operand. -/
def Placed.advanceAlong (length : Nat) :
    List Placed → List Trail → Nat → List Trail × Nat
  | [], trails, _ => (trails, 0)
  | p :: rest, trails, starts =>
    let (trail, ends) := p.advance length (trails.headD .fresh) starts
    let (trails, others) := advanceAlong length rest trails.tail starts
    (trail :: trails, ends ||| others)
end

/-- The expression matches somewhere in the text. -/
def Expr.matchesIn (e : Expr) (subject : List Char) : Bool :=
  let chart := Chart.ofText subject
  ((e.place chart).advance chart.length .fresh chart.everywhere).2 != 0

end RecordQuery.Regex
