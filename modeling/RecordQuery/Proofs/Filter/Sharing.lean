import RecordQuery.Proofs.Filter.Meaning
import RecordQuery.Proofs.Filter.Numbering

/-!
# What conditions share

Conditions of one filter share sets and slots, and they do so exactly as far as their operands allow
(`Filter.SharesExactly`, `Filter.shares_exactly`): each set that is tested against has the members
that the condition asks for, two conditions test against one name just if their sources are equal,
and there are as many names and slots as classes. Compiling a condition adds to what its context
tracks (`Context.Tracks.test`), and the invariant of a whole compilation (`Context.Shares`) is kept
by each condition, clause and query (`Clause.shares_compileAll`).
-/

namespace RecordQuery

open Source Distinct

/-! ## Operands and names -/

namespace Condition

/-- The values that are written out for a condition. -/
def written : Condition → List Value
  | equality _ operand | relation _ operand | inclusion _ operand => [operand]
  | pattern _ p => [.regex p]
  | membership _ items | subset _ items | superset _ items => items
  | overlap _ (.array items) => items
  | overlap _ operand => [operand]
  | existence _ | bits _ _ | type _ _ => []

/-- The source of the set that a condition at a path needs, if it needs one: a set of the operands
is built once, and one of the value's elements for each record. -/
def setSource? (path : Path) : Condition → Option SetSource
  | membership _ items | subset _ items | overlap _ (.array items) => some (.items items)
  | superset _ _ => some (.part path)
  | _ => none

end Condition

namespace Test

/-- The operator that is tested. -/
def operator : Test → Operator
  | equality negated _ => .equality negated
  | relation r _ => .relation r
  | existence _ => .existence
  | pattern negated _ _ => .pattern negated
  | inclusion _ operator _ => operator
  | bits negated _ => .bits negated
  | type negated _ => .type negated
  | membership negated _ => .membership negated
  | subset negated _ => .subset negated
  | superset negated _ _ _ => .superset negated
  | overlap negated _ => .overlap negated

/-- The set that is tested against, if it is built once. -/
def binding? : Test → Option Binding
  | membership _ binding | subset _ binding | overlap _ binding => some binding
  | _ => none

/-- The number of the declaration that is named. -/
def declared? : Test → Option Nat
  | superset _ _ index _ => some index
  | test => test.binding?.map Binding.index

end Test

namespace Context

variable {before after context : Context} {values : List Value} {sources : List SetSource}

/-! ## Compiling one condition -/

/-- The test is that of the condition: it stands at the same path, for the same operator and with
the same verdict, and a set that is built once for it is the declared one and holds what equals an
operand. -/
structure Answers (context : Context) (tested : Path × Test) (asked : Path × Condition) : Prop where
  path : tested.1 = asked.1
  operator : tested.2.operator = asked.2.operator
  holds : ∀ v : Value, v.WellFormed → tested.2.holds v = asked.2.holds v
  named : tested.2.declared?.isSome = (asked.2.setSource? asked.1).isSome
  contains : ∀ items, asked.2.setSource? asked.1 = some (.items items) →
    ∃ binding fragment, tested.2.binding? = some binding ∧
      context.declarations[binding.index]? = some (.shared fragment binding.set) ∧
      ∀ v : Value, v.WellFormed →
        (binding.set.contains v = true ↔ ∃ item ∈ items, (item == v) = true)

/-- A test answers a condition in a grown context, too. -/
theorem Answers.mono (h : before.Extends after) {tested : Path × Test} {asked : Path × Condition}
    (ht : before.Answers tested asked) : after.Answers tested asked := by
  refine ⟨ht.path, ht.operator, ht.holds, ht.named, fun items hitems => ?_⟩
  obtain ⟨binding, fragment, hbinding, hdeclared, hcontains⟩ := ht.contains items hitems
  exact ⟨binding, fragment, hbinding, h.declaration hdeclared, hcontains⟩

/-- The set that is registered for a list is declared and holds what equals a value of the list. -/
theorem contains_registerList (h : context.Valid) {items : List Value}
    (hw : ∀ v ∈ items, v.WellFormed) :
    let (binding, after) := context.registerList items
    ∃ fragment, after.declarations[binding.index]? = some (.shared fragment binding.set) ∧
      ∀ v : Value, v.WellFormed →
        (binding.set.contains v = true ↔ ∃ item ∈ items, (item == v) = true) := by
  obtain ⟨literals, hbinds, _⟩ := registerList_spec h hw
  refine ⟨_, hbinds.declared, fun v hv => ?_⟩
  rw [hbinds.contains_eq hw hv hv (Value.beq_refl hv), List.any_eq_true]

/-- Compiling a condition gives a test that answers it. -/
theorem answers_test (h : context.Valid) (path : Path) {c : Condition} (hc : c.WellFormed) :
    let (test, after) := context.test (path.expression Clause.recordVariable) c
    after.Answers (path, test) (path, c) := by
  obtain ⟨form, hcompiles⟩ := test_spec h path hc
  cases c with
  | equality | relation | existence | pattern | inclusion | bits | type | superset =>
    exact ⟨rfl, rfl, hcompiles.holds, rfl, nofun⟩
  | membership negated items | subset negated items =>
    obtain ⟨fragment, hdeclared, hcontains⟩ := contains_registerList h hc
    refine ⟨rfl, rfl, hcompiles.holds, rfl, fun _ hitems => ?_⟩
    cases hitems
    exact ⟨_, fragment, rfl, hdeclared, hcontains⟩
  | overlap negated operand =>
    cases operand with
    | array items =>
      obtain ⟨fragment, hdeclared, hcontains⟩ :=
        contains_registerList h (Value.wellFormed_array.1 hc)
      refine ⟨rfl, rfl, hcompiles.holds, rfl, fun _ hitems => ?_⟩
      cases hitems
      exact ⟨_, fragment, rfl, hdeclared, hcontains⟩
    | undefined | null | bool | number | bigint | string | regex | object =>
      exact ⟨rfl, rfl, hcompiles.holds, rfl, nofun⟩

/-- What the test names is the number of the source that the condition has, among the sources. -/
def Names (sources : List SetSource) (tested : Path × Test) (asked : Path × Condition) : Prop :=
  ∀ n, tested.2.declared? = some n →
    ∃ source, asked.2.setSource? asked.1 = some source ∧ Numbers sources n source

/-- A test that names the number of the condition's source names what it should. -/
theorem Names.of_eq {tested : Path × Test} {asked : Path × Condition} {n : Nat}
    {source : SetSource} (hn : tested.2.declared? = some n)
    (hsource : asked.2.setSource? asked.1 = some source) (h : Numbers sources n source) :
    Names sources tested asked := by
  intro m hm
  obtain rfl := Option.some.inj (hn.symm.trans hm)
  exact ⟨source, hsource, h⟩

/-- Numbers are kept when there are more sources. -/
theorem Names.append {tested : Path × Test} {asked : Path × Condition}
    (h : Names sources tested asked) (more : List SetSource) :
    Names (sources ++ more) tested asked := by
  intro n hn
  obtain ⟨source, hsource, hnumbers⟩ := h n hn
  exact ⟨source, hsource, hnumbers.append more⟩

/-- Compiling a condition writes out its operands and registers the source of its set, whose number
the test names. -/
theorem Tracks.test (h : context.Tracks values sources) (path : Path) {c : Condition}
    (hc : c.WellFormed) :
    let (test, after) := context.test (path.expression Clause.recordVariable) c
    Tracks after (values ++ c.written) (sources ++ (c.setSource? path).toList) ∧
      Names (sources ++ (c.setSource? path).toList) (path, test) (path, c) := by
  have hnone : sources ++ [] = sources := List.append_nil sources
  cases c with
  | equality | relation | inclusion => exact ⟨hnone.symm ▸ h.literal hc, nofun⟩
  | pattern negated p => exact ⟨hnone.symm ▸ h.literal (Value.wellFormed_regex p), nofun⟩
  | existence | bits | type =>
    exact ⟨hnone.symm ▸ (List.append_nil values).symm ▸ h, nofun⟩
  | membership negated items | subset negated items =>
    obtain ⟨htracks, hnumbers⟩ := h.registerList hc
    exact ⟨htracks, .of_eq rfl rfl hnumbers⟩
  | superset negated items =>
    obtain ⟨htracks, hnumbers⟩ := (h.list hc).registerPerRecord path
    exact ⟨htracks, .of_eq rfl rfl hnumbers⟩
  | overlap negated operand =>
    -- only an array has a set, and anything else is written out like the operand of an inclusion
    cases operand with
    | array items =>
      obtain ⟨htracks, hnumbers⟩ := h.registerList (Value.wellFormed_array.1 hc)
      exact ⟨htracks, .of_eq rfl rfl hnumbers⟩
    | undefined | null | bool | number | bigint | string | regex | object =>
      exact ⟨hnone.symm ▸ h.literal hc, nofun⟩

/-! ## Compiling many -/

/-- The sources of the sets that conditions need, in the order of the conditions. -/
def setSources (asked : List (Path × Condition)) : List SetSource :=
  asked.filterMap fun leaf => leaf.2.setSource? leaf.1

/-- The values that are written out for conditions, in the order of the conditions. -/
def writtenValues (asked : List (Path × Condition)) : List Value :=
  asked.flatMap fun leaf => leaf.2.written

/-- The conditions have been compiled to the tests in the context so far: it tracks what they need,
and each test answers its condition and names the number of its source. -/
structure Shares (context : Context) (tested : List (Path × Test))
    (asked : List (Path × Condition)) : Prop where
  tracks : context.Tracks (writtenValues asked) (setSources asked)
  answers : List.Forall₂ context.Answers tested asked
  names : List.Forall₂ (Names (setSources asked)) tested asked

/-- Nothing has been compiled in the empty context. -/
theorem shares_empty : Shares .empty [] [] := ⟨tracks_empty, .nil, .nil⟩

/-- One more condition is compiled. -/
theorem Shares.test {tested : List (Path × Test)} {asked : List (Path × Condition)}
    (h : context.Shares tested asked) (path : Path) {c : Condition} (hc : c.WellFormed) :
    let (test, after) := context.test (path.expression Clause.recordVariable) c
    Shares after (tested ++ [(path, test)]) (asked ++ [(path, c)]) := by
  obtain ⟨form, hcompiles⟩ := test_spec h.tracks.valid path hc
  obtain ⟨htracks, hnames⟩ := h.tracks.test path hc
  have hvalues : writtenValues (asked ++ [(path, c)]) = writtenValues asked ++ c.written := by
    simp [writtenValues]
  have hsources : setSources (asked ++ [(path, c)]) =
      setSources asked ++ (c.setSource? path).toList := by
    cases hs : c.setSource? path <;> simp [setSources, hs]
  refine ⟨?_, ?_, ?_⟩
  · rw [hvalues, hsources]
    exact htracks
  · have hearlier := h.answers.imp fun _ _ => Answers.mono hcompiles.uses.growth
    exact List.rel_append hearlier (.cons (answers_test h.tracks.valid path hc) .nil)
  · rw [hsources]
    have hearlier : List.Forall₂ (Names (setSources asked ++ (c.setSource? path).toList)) tested
        asked := h.names.imp fun _ _ hnamed => hnamed.append _
    exact List.rel_append hearlier (.cons hnames .nil)

end Context

namespace Clause

open Context

mutual
/-- Compiling a clause adds its conditions to those that are compiled. -/
theorem shares_compile {context : Context} {tested : List (Path × Test)}
    {asked : List (Path × Condition)} (h : context.Shares tested asked) (path : Path) :
    ∀ {clause : Clause Condition}, clause.WellFormed →
      let (compiled, after) := clause.compile path context
      after.Shares (tested ++ compiled.conditions path) (asked ++ clause.conditions path)
  | condition _, hw => h.test path hw
  | logic _ _, hw => shares_compileQueries h path hw.2
  | field key _, hw => shares_compileAll h (path ++ [key]) hw

/-- Compiling clauses adds their conditions to those that are compiled. -/
theorem shares_compileAll {context : Context} {tested : List (Path × Test)}
    {asked : List (Path × Condition)} (h : context.Shares tested asked) (path : Path) :
    ∀ {clauses : List (Clause Condition)}, WellFormedLevel clauses →
      let (compiled, after) := compileAll path context clauses
      after.Shares (tested ++ levelConditions path compiled) (asked ++ levelConditions path clauses)
  | [], _ => by
    simp only [compileAll, levelConditions, List.append_nil]
    exact h
  | clause :: rest, hw => by
    have hrest := shares_compileAll (shares_compile h path hw.1) path hw.2
    simp only [compileAll, levelConditions, ← List.append_assoc]
    exact hrest

/-- Compiling queries adds their conditions to those that are compiled. -/
theorem shares_compileQueries {context : Context} {tested : List (Path × Test)}
    {asked : List (Path × Condition)} (h : context.Shares tested asked) (path : Path) :
    ∀ {queries : List (List (Clause Condition))}, WellFormedQueries queries →
      let (compiled, after) := compileQueries path context queries
      after.Shares (tested ++ queriesConditions path compiled)
        (asked ++ queriesConditions path queries)
  | [], _ => by
    simp only [compileQueries, queriesConditions, List.append_nil]
    exact h
  | query :: rest, hw => by
    have hrest := shares_compileQueries (shares_compileAll h path hw.1) path hw.2
    simp only [compileQueries, queriesConditions, ← List.append_assoc]
    exact hrest
end

end Clause

/-! ## Filters -/

namespace Filter

open Context

/-- The tests of a filter, with the paths that they stand at. -/
def tests (filter : Filter) : List (Path × Test) :=
  match filter.clauses? with
  | some clauses => Clause.levelConditions [] clauses
  | none => []

/-- A filter shares sets and slots among the conditions, each at its path, just where their operands
are equal. -/
structure SharesExactly (filter : Filter) (asked : List (Path × Condition)) : Prop where
  /-- The tests are those of the conditions, one for one, and a set of operands that is built once
  holds what equals one of them. -/
  answers : List.Forall₂ filter.context.Answers filter.tests asked
  /-- Two tests name one declaration just if the sources of their sets are equal. -/
  named : ∀ {test test' : Path × Test} {leaf leaf' : Path × Condition},
    (test, leaf) ∈ filter.tests.zip asked → (test', leaf') ∈ filter.tests.zip asked →
    ∀ {n m : Nat} {source source' : SetSource}, test.2.declared? = some n →
      test'.2.declared? = some m → leaf.2.setSource? leaf.1 = some source →
      leaf'.2.setSource? leaf'.1 = some source' → (n = m ↔ source.Same source')
  /-- There is a declaration for each class of operand lists and for each path. -/
  declarations : filter.declarations =
    ((setSources asked).filterMap SetSource.items?).eraseDups.length +
      ((setSources asked).filterMap SetSource.path?).eraseDups.length
  /-- There is a slot for each class of values that are written out but not inline. -/
  slots : filter.slots = ((writtenValues asked).filter Value.isKept).eraseDups.length

/-- A filter shares as its context does. -/
theorem sharesExactly_of_shares {filter : Filter} {asked : List (Path × Condition)}
    (h : filter.context.Shares filter.tests asked) : filter.SharesExactly asked := by
  refine ⟨h.answers, ?_, ?_, congrArg List.length h.tracks.slots⟩
  · intro test test' leaf leaf' hmem hmem' n m source source' hn hm hsource hsource'
    have hnumbers : ∀ {test : Path × Test} {leaf : Path × Condition} {n : Nat} {source : SetSource},
        (test, leaf) ∈ filter.tests.zip asked → test.2.declared? = some n →
        leaf.2.setSource? leaf.1 = some source →
        source.WellFormed ∧ Numbers (setSources asked) n source := by
      intro test leaf n source hmem hn hsource
      obtain ⟨_, hfound, hnumbers⟩ := (List.forall₂_iff_zip.1 h.names).2 hmem n hn
      obtain rfl := Option.some.inj (hsource.symm.trans hfound)
      have hsources : source ∈ setSources asked :=
        List.mem_filterMap.2 ⟨leaf, (List.of_mem_zip hmem).2, hsource⟩
      exact ⟨h.tracks.sources_wellFormed _ hsources, hnumbers⟩
    obtain ⟨hw, hnumber⟩ := hnumbers hmem hn hsource
    obtain ⟨hw', hnumber'⟩ := hnumbers hmem' hm hsource'
    rw [← SetSource.beq_iff_same]
    exact Numbers.eq_iff SetSource.equivalenceOn h.tracks.sources_wellFormed hw hw' hnumber hnumber'
  · rw [← SetSource.length_eraseDups]
    exact h.tracks.declarations.length_eq

/-- The filter of a specification shares sets and slots exactly among the conditions of its
query. -/
theorem shares_exactly {limit : Nat} {spec : Value} {filter : Filter} (hspec : spec.WellFormed)
    (h : ofSpecification limit spec = .ok filter) :
    ∃ asked, filter.SharesExactly asked ∧
      ((spec = .undefined ∧ asked = []) ∨
        ∃ query, Specification.Asks limit spec query ∧
          asked = Clause.levelConditions [] query) := by
  rcases ofSpecification_spec h with ⟨rfl, rfl⟩ | ⟨query, hasks, rfl⟩
  · exact ⟨[], sharesExactly_of_shares shares_empty, .inl ⟨rfl, rfl⟩⟩
  · have hshares := Clause.shares_compileAll shares_empty [] (hasks.takenFrom hspec).1
    exact ⟨_, sharesExactly_of_shares hshares, .inr ⟨query, hasks, rfl⟩⟩

/-- Lists whose objects differ in the order of their fields share a set and a slot, and the sets of
elements at one path are one, too. -/
theorem shares_exactly_of_reordered :
    let spec : Value := .object
      [("a", .object [("$in", .array [.object [("x", .null), ("y", .bool true)], .number .nan]),
          ("$sup", .array [.string "s"]), ("$nsup", .array [])]),
        ("b", .object
          [("$ncon", .array [.object [("y", .bool true), ("x", .null)], .number .nan])])]
    ∃ filter, ofSpecification 2 spec = .ok filter ∧ filter.declarations = 2 ∧ filter.slots = 1 ∧
      ∃ asked, filter.SharesExactly asked ∧
        ((spec = .undefined ∧ asked = []) ∨ ∃ query, Specification.Asks 2 spec query ∧
          asked = Clause.levelConditions [] query) := by
  intro spec
  have hspec : spec.WellFormed := by
    simp [spec, Value.WellFormed, Value.WellFormedFields, Value.WellFormedItems]
  refine ⟨_, rfl, by decide +kernel, by decide +kernel, ?_⟩
  exact shares_exactly hspec rfl

end Filter

end RecordQuery
