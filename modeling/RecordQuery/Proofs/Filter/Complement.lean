import RecordQuery.Proofs.Filter.Meaning
import RecordQuery.Proofs.Query.Connectives
import RecordQuery.Proofs.Query.Placement

/-!
# Negation

Negation is the complement. A specification is negated as a whole by the connectives that say that
not all, or none, of their operands hold, and a condition by the operator that is the negation of
its own. Either way the answer of the filter is the opposite on every record, and where the filter
fails so does the other: with the same error, in which a negated operator puts its own name
(`Filter.negation_is_complement`). Both come down to queries that oppose each other wherever they
are compiled (`Query.Opposed`).
-/

namespace RecordQuery

/-! ## Errors -/

/-- The error with another operator in it. -/
def EvalError.withOperator (operator : Operator) : EvalError → EvalError
  | notAnArray _ found => notAnArray operator found
  | notIterable _ found => notIterable operator found
  | notIncludable _ found => notIncludable operator found
  | bigintMix _ => bigintMix operator

section
variable (v : Value) (operator operator' : Operator)

/-- An inclusion has the same answer under any operator. -/
@[simp] theorem Value.includes_withOperator (operand : Value) :
    (v.includes operator operand).mapError (.withOperator operator') =
      v.includes operator' operand := by
  cases v <;> rfl

/-- A test of all items has the same answer under any operator. -/
@[simp] theorem Value.allItemsIn_withOperator (isMember : Value → Bool) :
    (v.allItemsIn operator isMember).mapError (.withOperator operator') =
      v.allItemsIn operator' isMember := by
  cases v <;> rfl

/-- An overlap has the same answer under any operator. -/
@[simp] theorem Value.overlapsWith_withOperator (isMember : Value → Bool) (members : List Value) :
    (v.overlapsWith operator isMember members).mapError (.withOperator operator') =
      v.overlapsWith operator' isMember members := by
  cases v <;> rfl

/-- A bit test has the same answer under any operator. -/
@[simp] theorem Value.hasBits_withOperator (mask : Int32) :
    (v.hasBits operator mask).mapError (.withOperator operator') = v.hasBits operator' mask := by
  cases v <;> rfl

/-- A value has the same elements under any operator. -/
theorem Value.elements_withOperator :
    (v.elements operator).mapError (.withOperator operator') = v.elements operator' := by
  cases v <;> rfl

end

/-! ## Operators with a negation -/

/-- The operator comes with its negation. -/
inductive Operator.Negatable : (Bool → Operator) → Prop
  /-- The keys are $eq and $ne. -/
  | equality : Negatable equality
  /-- The keys are $match and $nmatch. -/
  | pattern : Negatable pattern
  /-- The keys are $incl and $nincl. -/
  | inclusion : Negatable inclusion
  /-- The keys are $bits and $nbits. -/
  | bits : Negatable bits
  /-- The keys are $type and $ntype. -/
  | type : Negatable type
  /-- The keys are $in and $nin. -/
  | membership : Negatable membership
  /-- The keys are $sub and $nsub. -/
  | subset : Negatable subset
  /-- The keys are $sup and $nsup. -/
  | superset : Negatable superset
  /-- The keys are $con and $ncon. -/
  | overlap : Negatable overlap

/-- The operator is a negation, and the second condition is the first with it in place of what it
negates. -/
inductive Condition.Negated : Operator → Condition → Condition → Prop
  | equality (operand : Value) :
    Negated (.equality true) (equality false operand) (equality true operand)
  | pattern (p : Pattern) : Negated (.pattern true) (pattern false p) (pattern true p)
  | inclusion (operand : Value) :
    Negated (.inclusion true) (inclusion false operand) (inclusion true operand)
  | bits (mask : Int32) : Negated (.bits true) (bits false mask) (bits true mask)
  | type (name : String) : Negated (.type true) (type false name) (type true name)
  | membership (items : List Value) :
    Negated (.membership true) (membership false items) (membership true items)
  | subset (items : List Value) : Negated (.subset true) (subset false items) (subset true items)
  | superset (items : List Value) :
    Negated (.superset true) (superset false items) (superset true items)
  | overlap (operand : Value) :
    Negated (.overlap true) (overlap false operand) (overlap true operand)

/-- An operator and its negation take the same operands, and make a condition and its negation. -/
theorem Condition.ofOperand_negated {family : Bool → Operator} (h : Operator.Negatable family)
    (path path' : Path) (operand : Value) :
    Concur (Negated (family true)) (ofOperand (family false) path operand)
      (ofOperand (family true) path' operand) := by
  have hitems : ∀ operator operator',
      Concur Eq (itemsOf operator path operand) (itemsOf operator' path' operand) := by
    intro operator operator'
    cases operand with
    | array items => exact .accepted rfl
    | undefined | null | bool | number | bigint | string | regex | object => exact .refused _ _
  cases h with
  | equality => exact .accepted (.equality operand)
  | inclusion => exact .accepted (.inclusion operand)
  | overlap => exact .accepted (.overlap operand)
  | membership => exact (hitems _ _).map fun items _ heq => heq ▸ .membership items
  | subset => exact (hitems _ _).map fun items _ heq => heq ▸ .subset items
  | superset => exact (hitems _ _).map fun items _ heq => heq ▸ .superset items
  | pattern =>
    refine Concur.map (r := Eq) ?_ fun p _ heq => heq ▸ .pattern p
    cases operand with
    | regex p => exact .accepted rfl
    | string source =>
      simp only [patternOf]
      cases Pattern.ofSource source with
      | ok p => exact .accepted rfl
      | error e => exact .refused _ _
    | undefined | null | bool | number | bigint | array | object => exact .refused _ _
  | bits =>
    refine Concur.map (r := Eq) ?_ fun mask _ heq => heq ▸ .bits mask
    cases operand with
    | number n => exact .accepted rfl
    | undefined | null | bool | bigint | string | regex | array | object => exact .refused _ _
  | type =>
    refine Concur.map (r := Eq) ?_ fun name _ heq => heq ▸ .type name
    cases operand with
    | string name => exact .accepted rfl
    | undefined | null | bool | number | bigint | regex | array | object => exact .refused _ _

/-! ## Opposed queries -/

/-- Wherever the first query is compiled, the second leaves the same context behind and has the
opposite verdict on every value, where errors are renamed. -/
structure Query.Opposed (rename : EvalError → EvalError) (query query' : Query) : Prop where
  context : ∀ path context,
    (Clause.compileAll path context query').2 = (Clause.compileAll path context query).2
  verdict : ∀ path context v,
    Clause.allHold Test.holds (Clause.compileAll path context query').1 v = Verdict.negateIf true
      ((Clause.allHold Test.holds (Clause.compileAll path context query).1 v).mapError rename)

/-- Errors that are not renamed stay. -/
theorem Verdict.mapError_id (a : Verdict) : Except.mapError id a = a := by
  cases a <;> rfl

/-- The opposite of an answer. -/
theorem Verdict.negateIf_mapError_ok (rename : EvalError → EvalError) (b : Bool) :
    negateIf true (Except.mapError rename (.ok (false ^^ b))) = .ok (true ^^ b) := by
  cases b <;> rfl

/-- The opposite of a verdict that is not negated. -/
@[simp] theorem Verdict.negateIf_mapError_negateIf (rename : EvalError → EvalError) (a : Verdict) :
    negateIf true (Except.mapError rename (negateIf false a)) =
      negateIf true (a.mapError rename) := by
  cases a with
  | error => rfl
  | ok b => cases b <;> rfl

/-- A condition and its negation are tested in the same context, with opposite verdicts. -/
theorem Condition.Negated.test {operator : Operator} {c c' : Condition} (h : Negated operator c c')
    (context : Context) (expression : String) :
    (context.test expression c').2 = (context.test expression c).2 ∧
      ∀ v, (context.test expression c').1.holds v = Verdict.negateIf true
        (((context.test expression c).1.holds v).mapError (.withOperator operator)) := by
  cases h with
  | equality | pattern | type | membership =>
    exact ⟨rfl, fun v => (Verdict.negateIf_mapError_ok _ _).symm⟩
  | inclusion | bits | subset =>
    refine ⟨rfl, fun v => ?_⟩
    simp [Context.test, Test.holds]
  | superset items =>
    refine ⟨rfl, fun v => ?_⟩
    -- the error is met before there is an answer to negate, while the value is iterated over
    have helements := v.elements_withOperator (.superset false) (.superset true)
    simp only [Context.test, Test.holds, ← helements]
    cases v.elements (.superset false) with
    | ok elements => exact (Verdict.negateIf_mapError_ok _ _).symm
    | error e => rfl
  | overlap operand =>
    -- an operand that is no array is tested as one of an inclusion is
    cases operand with
    | array items =>
      refine ⟨rfl, fun v => ?_⟩
      simp [Context.test, Test.holds]
    | undefined | null | bool | number | bigint | string | regex | object =>
      refine ⟨rfl, fun v => ?_⟩
      simp [Context.test, Test.holds]

namespace Query

open Clause

variable {rename : EvalError → EvalError} {query query' : Query}

/-- A condition and its negation make opposed queries. -/
theorem opposed_condition {operator : Operator} {c c' : Condition}
    (h : Condition.Negated operator c c') :
    Opposed (.withOperator operator) [.condition c] [.condition c'] := by
  constructor
  · intro path context
    exact (h.test context _).1
  · intro path context v
    rw [compileAll_singleton, compileAll_singleton, allHold_singleton, allHold_singleton]
    exact (h.test context _).2 v

/-- Opposed queries on a field are opposed. -/
theorem opposed_field (key : String) (h : Opposed rename query query') :
    Opposed rename [.field key query] [.field key query'] := by
  constructor
  · intro path context
    exact h.context (path ++ [key]) context
  · intro path context v
    rw [compileAll_singleton, compileAll_singleton, allHold_singleton, allHold_singleton]
    exact h.verdict (path ++ [key]) context (v.get key)

/-- A query is opposed to the connectives that negate it. -/
theorem opposed_logic {connective : Connective} (h : connective ∈ [.nand, .nor]) (query : Query) :
    Opposed id query [.logic connective [query]] := by
  refine ⟨fun _ _ => rfl, fun path context v => ?_⟩
  rw [Verdict.mapError_id, compileAll_logic, allHold_singleton]
  rcases List.mem_pair.1 h with rfl | rfl
  · exact congrArg (Verdict.negateIf true) (everyQueryHolds_singleton ..)
  · exact congrArg (Verdict.negateIf true) (someQueryHolds_singleton ..)

/-- The filters of opposed queries have opposite verdicts. -/
theorem Opposed.fits (h : Opposed rename query query') (record : Value) :
    (Filter.ofQuery query').fits record =
      Verdict.negateIf true (((Filter.ofQuery query).fits record).mapError rename) :=
  h.verdict [] .empty record

/-! ## Negated conditions on fields -/

/-- The fields, in objects one in the other that have each the next of the keys. -/
def fieldsUnder (fields : List (String × Value)) : List String → List (String × Value)
  | [] => fields
  | key :: rest => [(key, .object (fieldsUnder fields rest))]

/-- Single fields make opposed queries if their clauses are opposed. -/
theorem ofFields_singleton_alike {limit depth : Nat} {path : Path} {key key' : String}
    {v v' : Value} (h : Concur (fun clause clause' => Opposed rename [clause] [clause'])
      (clauseOf limit depth path key v) (clauseOf limit depth path key' v')) :
    Concur (Opposed rename) (ofFields limit depth path [(key, v)])
      (ofFields limit depth path [(key', v')]) := by
  rw [ofFields_cons, ofFields_cons]
  exact h.bind fun _ _ hopposed => .accepted hopposed

/-- An operator and its negation on the same operand are accepted alike and opposed, wherever the
field is that they are on. -/
theorem ofFields_negated {family : Bool → Operator} (h : Operator.Negatable family) (limit : Nat)
    (operand : Value) {keys : List String} (hkeys : ∀ key ∈ keys, Keyword.ofKey? key = none)
    (depth : Nat) (path : Path) :
    Concur (Opposed (.withOperator (family true)))
      (ofFields limit depth path (fieldsUnder [((family false).name, operand)] keys))
      (ofFields limit depth path (fieldsUnder [((family true).name, operand)] keys)) := by
  induction keys generalizing depth path with
  | nil =>
    have hkey : ∀ negated,
        Keyword.ofKey? (family negated).name = some (.condition (family negated)) :=
      fun negated => Keyword.ofKey?_name (.condition (family negated))
    apply ofFields_singleton_alike
    simp only [clauseOf, hkey]
    exact (Condition.ofOperand_negated h _ _ operand).map fun _ _ => opposed_condition
  | cons key rest ih =>
    rw [List.forall_mem_cons] at hkeys
    apply ofFields_singleton_alike
    simp only [clauseOf, hkeys.1]
    exact ((ih hkeys.2 (depth + 1) (path ++ [key])).within limit (depth + 1)).map
      fun _ _ => opposed_field key

end Query

/-! ## Filters -/

/-- What is asked of a record is read the same as the operand of a connective, a level deeper. -/
theorem Specification.Asks.ofOperand {limit : Nat} {spec : Value} {query : Query}
    (h : Asks limit spec query) (path : Path) :
    Query.ofOperand (limit + 1) 0 path spec = .ok query := by
  cases h with
  | query h => exact Query.ofOperand_of_ofSpecification h path
  | pattern => rfl
  | equality hdefined hregex harray hobject =>
    cases spec with
    | regex p => exact absurd rfl (hregex p)
    | array items => exact absurd rfl (harray items)
    | object fields => exact absurd rfl (hobject fields)
    | undefined | null | bool | number | bigint | string => rfl

namespace Filter

/-- A specification is negated by the connectives that say that not all, or none, of their operands
hold. -/
theorem exists_negated {limit : Nat} {spec : Value} {filter : Filter} (hdefined : spec ≠ .undefined)
    (harray : ∀ items, spec ≠ .array items) (h : ofSpecification limit spec = .ok filter)
    {connective : Connective} (hconnective : connective ∈ [.nand, .nor]) :
    ∃ filter', ofSpecification (limit + 1) (.object [(connective.name, spec)]) = .ok filter' ∧
      ∀ record, filter'.fits record = (filter.fits record).negateIf true := by
  obtain ⟨hundefined, _⟩ | ⟨query, hasks, rfl⟩ := ofSpecification_spec h
  · exact absurd hundefined hdefined
  · have hkey : Keyword.ofKey? connective.name = some (.logic connective) :=
      Keyword.ofKey?_name (.logic connective)
    have hparts : Query.ofSpecification (limit + 1) (.object [(connective.name, spec)]) =
        .ok [.logic connective [query]] := by
      refine Query.ofFields_eq_ok.2 (.cons ?_ .nil)
      simp only [Query.clauseOf, hkey, Query.operandsOf_eq_map harray,
        Query.memberOf_of_ne hdefined, hasks.ofOperand]
      rfl
    refine ⟨ofQuery [.logic connective [query]], map_eq_ok.2 ⟨_, hparts, rfl⟩, fun record => ?_⟩
    rw [(Query.opposed_logic hconnective query).fits, Verdict.mapError_id]

/-- Negation is the complement. A specification under a connective that negates it is accepted with
one level more, and its filter gives the opposite answer on every record or fails with the same
error. An operator and its negation are accepted alike, on any field, and their filters give
opposite answers on every record or fail with the same error, each with its own operator in it. -/
theorem negation_is_complement :
    (∀ limit spec filter, spec ≠ .undefined → (∀ items, spec ≠ .array items) →
      ofSpecification limit spec = .ok filter → ∀ connective ∈ [Connective.nand, .nor],
      ∃ filter', ofSpecification (limit + 1) (.object [(connective.name, spec)]) = .ok filter' ∧
        ∀ record, filter'.fits record = (filter.fits record).negateIf true) ∧
    ∀ family, Operator.Negatable family → ∀ limit operand keys,
      (∀ key ∈ keys, Keyword.ofKey? key = none) →
      let made (negated : Bool) : Except CompileError Filter :=
        ofSpecification limit (.object (Query.fieldsUnder [((family negated).name, operand)] keys))
      Concur (fun filter filter' => ∀ record, filter'.fits record =
          Verdict.negateIf true ((filter.fits record).mapError (.withOperator (family true))))
        (made false) (made true) := by
  constructor
  · intro limit spec filter hdefined harray h connective hconnective
    exact exists_negated hdefined harray h hconnective
  · intro family hfamily limit operand keys hkeys made
    exact (Query.ofFields_negated hfamily limit operand hkeys 0 []).map fun _ _ h => h.fits

/-- A subset test of a field, which fails on records without an array there. -/
theorem negation_is_complement_of_subset :
    let spec : Value := .object [("tags", .object [("$sub", .array [.null])])]
    let negated : Value := .object [("tags", .object [("$nsub", .array [.null])])]
    ∃ filter opposite negative, ofSpecification 1 spec = .ok filter ∧
      ofSpecification 2 (.object [("$not", spec)]) = .ok opposite ∧
      ofSpecification 1 negated = .ok negative ∧
      (∀ record, opposite.fits record = (filter.fits record).negateIf true) ∧
      ∀ record, negative.fits record = Verdict.negateIf true
        ((filter.fits record).mapError (.withOperator (.subset true))) := by
  intro spec negated
  obtain ⟨filter, hfilter⟩ : ∃ filter, ofSpecification 1 spec = .ok filter := ⟨_, rfl⟩
  obtain ⟨opposite, hopposite, hfits⟩ :=
    negation_is_complement.1 1 spec filter nofun nofun hfilter .nand (.head _)
  have hnegated := negation_is_complement.2 _ .subset 1 (.array [.null]) ["tags"] (by decide)
  obtain ⟨negative, hnegative, hfits'⟩ := hnegated.exists_of_ok hfilter
  exact ⟨filter, opposite, negative, hfilter, hopposite, hnegative, hfits, hfits'⟩

end Filter

end RecordQuery
