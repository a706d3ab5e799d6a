import RecordQuery.Proofs.Query.Verdict

/-!
# Queries of equal specifications

Equal specifications may list their keys in different orders, and so may their queries list their
clauses. What is decided from left to right need not end alike then: an error that one query meets
lies behind a decision of the other. But the verdicts never contradict each other (`Compatible`):
clauses that are all to hold do so in any order (`allHold_compatible`). Equal specifications are
accepted or refused alike, and where they are accepted their queries are compatible
(`ofSpecification_alike`).
-/

namespace RecordQuery

/-! ## Compatible verdicts -/

namespace Verdict

/-- The verdicts do not contradict each other: where neither is an error, they are the same. -/
def Compatible (a b : Verdict) : Prop := ∀ x y, a = .ok x → b = .ok y → x = y

variable {a a' b b' : Verdict}

/-- A verdict does not contradict itself. -/
theorem Compatible.refl (a : Verdict) : a.Compatible a := by
  intro x y hx hy
  exact Except.ok.inj (hx.symm.trans hy)

/-- Opposites do not contradict each other if the verdicts do not. -/
theorem Compatible.negateIf (h : a.Compatible b) (negated : Bool) :
    (a.negateIf negated).Compatible (b.negateIf negated) := by
  intro x y hx hy
  cases a with
  | error => cases hx
  | ok s =>
    cases b with
    | error => cases hy
    | ok t =>
      obtain rfl := h s t rfl rfl
      exact Except.ok.inj (hx.symm.trans hy)

/-- Conjunctions in the same order do not contradict each other if their parts do not. -/
theorem Compatible.both (h : a.Compatible b) (h' : a'.Compatible b') :
    (a.both a').Compatible (b.both b') := by
  intro x y hx hy
  cases a with
  | error => cases hx
  | ok s =>
    cases b with
    | error => cases hy
    | ok t =>
      obtain rfl := h s t rfl rfl
      cases s with
      | true => exact h' x y hx hy
      | false => exact Except.ok.inj (hx.symm.trans hy)

/-- Disjunctions in the same order do not contradict each other if their parts do not. -/
theorem Compatible.either (h : a.Compatible b) (h' : a'.Compatible b') :
    (a.either a').Compatible (b.either b') := by
  intro x y hx hy
  cases a with
  | error => cases hx
  | ok s =>
    cases b with
    | error => cases hy
    | ok t =>
      obtain rfl := h s t rfl rfl
      cases s with
      | true => exact Except.ok.inj (hx.symm.trans hy)
      | false => exact h' x y hx hy

end Verdict

namespace Clause

section
variable {α : Type} {leaf : α → Value → Verdict} {clauses clauses' : List (Clause α)} {v : Value}

/-- Clauses hold together exactly if each of them holds. -/
theorem allHold_eq_true :
    allHold leaf clauses v = .ok true ↔ ∀ clause ∈ clauses, clause.holds leaf v = .ok true := by
  induction clauses with
  | nil => simp [allHold]
  | cons clause rest ih =>
    rw [allHold, List.forall_mem_cons, ← ih]
    cases clause.holds leaf v with
    | error => simp [Verdict.both]
    | ok b => cases b <;> simp [Verdict.both]

/-- Clauses that do not hold together have one among them that does not hold. -/
theorem exists_of_allHold_eq_false (h : allHold leaf clauses v = .ok false) :
    ∃ clause ∈ clauses, clause.holds leaf v = .ok false := by
  induction clauses with
  | nil => cases h
  | cons clause rest ih =>
    rw [allHold] at h
    cases hfirst : clause.holds leaf v with
    | error =>
      rw [hfirst] at h
      cases h
    | ok b =>
      rw [hfirst] at h
      cases b with
      | false => exact ⟨clause, .head _, hfirst⟩
      | true =>
        obtain ⟨other, hmem, hother⟩ := ih h
        exact ⟨other, .tail _ hmem, hother⟩

/-- Clauses that are all to hold do not contradict others, in any order, if each of them has one
among the others that it does not contradict, and the other way round. -/
theorem allHold_compatible
    (h : ∀ clause ∈ clauses, ∃ clause' ∈ clauses',
      (clause.holds leaf v).Compatible (clause'.holds leaf v))
    (h' : ∀ clause' ∈ clauses', ∃ clause ∈ clauses,
      (clause.holds leaf v).Compatible (clause'.holds leaf v)) :
    (allHold leaf clauses v).Compatible (allHold leaf clauses' v) := by
  intro x y hx hy
  cases x with
  | true =>
    cases y with
    | true => rfl
    | false =>
      -- the clause that fails among the others has its like among those that all hold
      obtain ⟨clause', hmem', hfalse⟩ := exists_of_allHold_eq_false hy
      obtain ⟨clause, hmem, hcompatible⟩ := h' clause' hmem'
      exact hcompatible true false (allHold_eq_true.1 hx clause hmem) hfalse
  | false =>
    cases y with
    | false => rfl
    | true =>
      obtain ⟨clause, hmem, hfalse⟩ := exists_of_allHold_eq_false hx
      obtain ⟨clause', hmem', hcompatible⟩ := h clause hmem
      exact hcompatible false true hfalse (allHold_eq_true.1 hy clause' hmem')

end

/-- The clauses do not contradict each other on any value. -/
def Compatible (clause clause' : Clause Condition) : Prop :=
  ∀ v : Value, v.WellFormed →
    (clause.holds Condition.holds v).Compatible (clause'.holds Condition.holds v)

end Clause

namespace Query

/-- The queries do not contradict each other on any value. -/
def Compatible (query query' : Query) : Prop :=
  ∀ v : Value, v.WellFormed → (query.holds v).Compatible (query'.holds v)

/-- Conditions with equal operands make compatible queries. -/
theorem compatible_condition {c c' : Condition} (hc : c.WellFormed) (hc' : c'.WellFormed)
    (h : c.Same c') : Clause.Compatible (.condition c) (.condition c') := by
  intro v hv
  rw [Clause.holds, Clause.holds, Condition.holds_congr hc hc' hv hv h (Value.beq_refl hv)]
  exact .refl _

/-- Queries for equal values are compatible. -/
theorem compatible_equality {v v' : Value} (hv : v.WellFormed) (hv' : v'.WellFormed)
    (h : (v == v') = true) :
    Compatible [.condition (.equality false v)] [.condition (.equality false v')] := by
  have hclause : Clause.Compatible (.condition (.equality false v))
      (.condition (.equality false v')) := compatible_condition hv hv' (.equality false h)
  intro w hw
  exact (hclause w hw).both (.refl _)

/-- Compatible queries that are all to hold are compatible. -/
theorem everyQueryHolds_compatible {queries queries' : List Query}
    (h : List.Forall₂ Compatible queries queries') {v : Value} (hv : v.WellFormed) :
    (Clause.everyQueryHolds Condition.holds queries v).Compatible
      (Clause.everyQueryHolds Condition.holds queries' v) := by
  induction h with
  | nil => exact .refl _
  | cons hfirst _ ih => exact .both (hfirst v hv) ih

/-- Compatible queries one of which is to hold are compatible. -/
theorem someQueryHolds_compatible {queries queries' : List Query}
    (h : List.Forall₂ Compatible queries queries') {v : Value} (hv : v.WellFormed) :
    (Clause.someQueryHolds Condition.holds queries v).Compatible
      (Clause.someQueryHolds Condition.holds queries' v) := by
  induction h with
  | nil => exact .refl _
  | cons hfirst _ ih => exact .either (hfirst v hv) ih

/-- Connectives of compatible queries are compatible. -/
theorem compatible_logic (connective : Connective) {queries queries' : List Query}
    (h : List.Forall₂ Compatible queries queries') :
    Clause.Compatible (.logic connective queries) (.logic connective queries') := by
  intro v hv
  cases connective with
  | and => exact everyQueryHolds_compatible h hv
  | or => exact someQueryHolds_compatible h hv
  | nor => exact (someQueryHolds_compatible h hv).negateIf true
  | nand => exact (everyQueryHolds_compatible h hv).negateIf true

/-- Fields of one name with compatible queries are compatible. -/
theorem compatible_field (key : String) {query query' : Query} (h : Compatible query query') :
    Clause.Compatible (.field key query) (.field key query') := by
  intro v hv
  exact h (v.get key) (Value.wellFormed_get hv key)

end Query

/-! ## Concurring computations -/

/-- Both computations fail, with whatever errors, or both succeed with related results. -/
inductive Concur {ε α β : Type} (r : α → β → Prop) : Except ε α → Except ε β → Prop
  | refused (e e' : ε) : Concur r (.error e) (.error e')
  | accepted {a : α} {b : β} (h : r a b) : Concur r (.ok a) (.ok b)

namespace Concur

variable {ε α β γ δ : Type} {r : α → β → Prop} {s : γ → δ → Prop} {x : Except ε α} {y : Except ε β}

/-- What is made of related results is made alike. -/
theorem map {f : α → γ} {g : β → δ} (h : Concur r x y) (hfg : ∀ a b, r a b → s (f a) (g b)) :
    Concur s (x.map f) (y.map g) := by
  cases h with
  | refused e e' => exact .refused e e'
  | accepted h => exact .accepted (hfg _ _ h)

/-- Computations that go on from related results alike are alike. -/
theorem bind {f : α → Except ε γ} {g : β → Except ε δ} (h : Concur r x y)
    (hfg : ∀ a b, r a b → Concur s (f a) (g b)) : Concur s (x >>= f) (y >>= g) := by
  cases h with
  | refused e e' => exact .refused e e'
  | accepted h => exact hfg _ _ h

/-- Parts at the same depth are refused alike for their depth. -/
theorem within {r : α → β → Prop} {x : Except CompileError α} {y : Except CompileError β}
    (h : Concur r x y) (limit depth : Nat) :
    Concur r (Specification.within limit depth x) (Specification.within limit depth y) := by
  unfold Specification.within
  split
  · exact .refused _ _
  · exact h

/-- Of computations that are alike, the one succeeds exactly if the other does. -/
theorem exists_ok_iff (h : Concur r x y) : (∃ a, x = .ok a) ↔ ∃ b, y = .ok b := by
  cases h with
  | refused e e' => simp
  | accepted h => simp

/-- What the one computation gives, the other gives something related to. -/
theorem exists_of_ok (h : Concur r x y) {a : α} (ha : x = .ok a) : ∃ b, y = .ok b ∧ r a b := by
  cases h with
  | refused e e' => cases ha
  | accepted h =>
    cases ha
    exact ⟨_, rfl, h⟩

/-- The results of computations that are alike are related. -/
theorem related (h : Concur r x y) {a : α} {b : β} (ha : x = .ok a) (hb : y = .ok b) : r a b := by
  obtain ⟨b', hb', hab⟩ := h.exists_of_ok ha
  obtain rfl := Except.ok.inj (hb.symm.trans hb')
  exact hab

/-- What is known of results may be used to relate them otherwise. -/
theorem mono {s : α → β → Prop} (h : Concur r x y)
    (hrs : ∀ a b, x = .ok a → y = .ok b → r a b → s a b) : Concur s x y := by
  cases h with
  | refused e e' => exact .refused e e'
  | accepted h => exact .accepted (hrs _ _ rfl rfl h)

end Concur

/-! ## Conditions of equal operands -/

/-- Equal operands are refused alike, and where they are taken the conditions are the same. -/
theorem Condition.ofOperand_alike (operator : Operator) (path : Path) {v v' : Value}
    (h : (v == v') = true) :
    Concur Condition.Same (ofOperand operator path v) (ofOperand operator path v') := by
  have hsame := Value.beq_iff_same.1 h
  have hitems : Concur (List.Forall₂ fun x y : Value => (x == y) = true)
      (itemsOf operator path v) (itemsOf operator path v') := by
    cases hsame with
    | array hitems => exact .accepted hitems
    | undefined | null | bool | number | bigint | string | regex | object => exact .refused _ _
  cases operator with
  | equality negated => exact .accepted (.equality negated h)
  | relation r => exact .accepted (.relation r h)
  | inclusion negated => exact .accepted (.inclusion negated h)
  | overlap negated => exact .accepted (.overlap negated h)
  | membership negated => exact hitems.map fun _ _ hxy => .membership negated hxy
  | subset negated => exact hitems.map fun _ _ hxy => .subset negated hxy
  | superset negated => exact hitems.map fun _ _ hxy => .superset negated hxy
  | existence =>
    refine Concur.map (r := Eq) ?_ fun b _ hb => hb ▸ .existence b
    cases hsame with
    | bool => exact .accepted rfl
    | undefined | null | number | bigint | string | regex | array | object => exact .refused _ _
  | pattern negated =>
    refine Concur.map (r := Eq) ?_ fun p _ hp => hp ▸ .pattern negated p
    cases hsame with
    | regex => exact .accepted rfl
    | string source =>
      simp only [patternOf]
      cases Pattern.ofSource source with
      | ok p => exact .accepted rfl
      | error e => exact .refused _ _
    | undefined | null | bool | number | bigint | array | object => exact .refused _ _
  | bits negated =>
    refine Concur.map (r := Eq) ?_ fun mask _ hmask => hmask ▸ .bits negated mask
    cases hsame with
    | number hn => exact .accepted (Number.toInt32_congr hn)
    | undefined | null | bool | bigint | string | regex | array | object => exact .refused _ _
  | type negated =>
    refine Concur.map (r := Eq) ?_ fun name _ hname => hname ▸ .type negated name
    cases hsame with
    | string => exact .accepted rfl
    | undefined | null | bool | number | bigint | regex | array | object => exact .refused _ _

/-! ## Queries of equal parts -/

namespace Query

/-- The queries of what stands under a connective of a query at `depth`. -/
def operandsOf (limit depth : Nat) (connective : Connective) (path : Path) :
    Value → Except CompileError (List Query)
  | .array [] => .error (.emptyOperands path connective)
  | .array items => ofOperands limit depth path 0 items
  | .undefined => .error (.undefinedSpecification path)
  | v => (ofOperand limit depth path v).map fun query => [query]

/-- The query of one of the operands in an array under a connective. -/
def memberOf (limit depth : Nat) (path : Path) : Value → Except CompileError Query
  | .undefined => .error (.undefinedSpecification path)
  | v => ofOperand limit depth path v

/-- The clause of a field of an object at `depth`. -/
def clauseOf (limit depth : Nat) (path : Path) (key : String) (v : Value) :
    Except CompileError (Clause Condition) :=
  match Keyword.ofKey? key with
  | some (.condition operator) =>
    (Condition.ofOperand operator (path ++ [key]) v).map Clause.condition
  | some (.logic connective) =>
    (operandsOf limit depth connective (path ++ [key]) v).map (Clause.logic connective)
  | none => (ofOperand limit depth (path ++ [key]) v).map (Clause.field key)

section
variable {limit depth : Nat} {path : Path}

/-- The clauses of an object are those of its fields. -/
theorem ofFields_cons (key : String) (v : Value) (rest : List (String × Value)) :
    ofFields limit depth path ((key, v) :: rest) = do
      let clause ← clauseOf limit depth path key v
      return clause :: (← ofFields limit depth path rest) := by
  rw [ofFields, clauseOf]
  cases Keyword.ofKey? key with
  | none => rfl
  | some keyword =>
    cases keyword with
    | condition operator => rfl
    | logic connective =>
      cases v with
      | array items =>
        cases items with
        | nil => rfl
        | cons => rfl
      | null | bool | number | bigint | string | regex | object =>
        simp only [operandsOf]
        cases ofOperand limit depth _ _ <;> rfl
      | undefined => rfl

/-- The queries of operands are those of each. -/
theorem ofOperands_cons (i : Nat) (v : Value) (rest : List Value) :
    ofOperands limit depth path i (v :: rest) = do
      let query ← memberOf limit depth (path ++ [Text.decimal i]) v
      return query :: (← ofOperands limit depth path (i + 1) rest) := by
  cases v <;> rfl

/-- Fields are accepted exactly if each of them is, with its clause in its place. -/
theorem ofFields_eq_ok {fields : List (String × Value)} {query : Query} :
    ofFields limit depth path fields = .ok query ↔
      List.Forall₂ (fun field clause => clauseOf limit depth path field.1 field.2 = .ok clause)
        fields query := by
  induction fields generalizing query with
  | nil =>
    rw [ofFields, List.forall₂_nil_left_iff, Except.ok.injEq, eq_comm]
  | cons field rest ih =>
    rw [ofFields_cons, bind_eq_ok, List.forall₂_cons_left_iff]
    refine exists_congr fun clause => ?_
    simp only [bind_eq_ok, pure, Except.pure, Except.ok.injEq, ih]
    constructor
    · rintro ⟨hclause, more, hmore, rfl⟩
      exact ⟨more, hclause, hmore, rfl⟩
    · rintro ⟨more, hclause, hmore, rfl⟩
      exact ⟨hclause, more, hmore, rfl⟩

/-- Fields are accepted exactly if each of them is. -/
theorem exists_ofFields_iff {fields : List (String × Value)} :
    (∃ query, ofFields limit depth path fields = .ok query) ↔
      ∀ field ∈ fields, ∃ clause, clauseOf limit depth path field.1 field.2 = .ok clause := by
  simp only [ofFields_eq_ok]
  induction fields with
  | nil => exact iff_of_true ⟨[], .nil⟩ nofun
  | cons field rest ih =>
    rw [List.forall_mem_cons, ← ih]
    constructor
    · rintro ⟨query, h⟩
      cases h with
      | cons hfirst hrest => exact ⟨⟨_, hfirst⟩, _, hrest⟩
    · rintro ⟨⟨clause, hfirst⟩, query, hrest⟩
      exact ⟨clause :: query, .cons hfirst hrest⟩

/-- Fields in any order are accepted alike and make compatible queries, if each of them has one
among the others that it is accepted like, and the other way round. -/
theorem ofFields_alike {fields fields' : List (String × Value)}
    (h : ∀ field ∈ fields, ∃ field' ∈ fields', Concur Clause.Compatible
      (clauseOf limit depth path field.1 field.2) (clauseOf limit depth path field'.1 field'.2))
    (h' : ∀ field' ∈ fields', ∃ field ∈ fields, Concur Clause.Compatible
      (clauseOf limit depth path field.1 field.2) (clauseOf limit depth path field'.1 field'.2)) :
    Concur Compatible (ofFields limit depth path fields) (ofFields limit depth path fields') := by
  have haccepted : (∃ query, ofFields limit depth path fields = .ok query) ↔
      ∃ query, ofFields limit depth path fields' = .ok query := by
    rw [exists_ofFields_iff, exists_ofFields_iff]
    constructor
    · intro hall field' hmem'
      obtain ⟨field, hmem, halike⟩ := h' field' hmem'
      exact halike.exists_ok_iff.1 (hall field hmem)
    · intro hall field hmem
      obtain ⟨field', hmem', halike⟩ := h field hmem
      exact halike.exists_ok_iff.2 (hall field' hmem')
  cases hquery : ofFields limit depth path fields with
  | error e =>
    cases hquery' : ofFields limit depth path fields' with
    | error e' => exact .refused e e'
    | ok query' =>
      obtain ⟨query, hok⟩ := haccepted.2 ⟨query', hquery'⟩
      rw [hquery] at hok
      cases hok
  | ok query =>
    obtain ⟨query', hquery'⟩ := haccepted.1 ⟨query, hquery⟩
    rw [hquery']
    refine .accepted fun v hv => Clause.allHold_compatible ?_ ?_
    · -- a clause is that of a field, whose like has a clause among the others
      intro clause hclause
      obtain ⟨field, hmem, hfield⟩ := Value.exists_mem_of_forall₂ (ofFields_eq_ok.1 hquery) hclause
      obtain ⟨field', hmem', halike⟩ := h field hmem
      obtain ⟨clause', hclause', hfield'⟩ :=
        Value.exists_mem_of_forall₂ (ofFields_eq_ok.1 hquery').flip hmem'
      exact ⟨clause', hclause', halike.related hfield hfield' v hv⟩
    · intro clause' hclause'
      obtain ⟨field', hmem', hfield'⟩ :=
        Value.exists_mem_of_forall₂ (ofFields_eq_ok.1 hquery') hclause'
      obtain ⟨field, hmem, halike⟩ := h' field' hmem'
      obtain ⟨clause, hclause, hfield⟩ :=
        Value.exists_mem_of_forall₂ (ofFields_eq_ok.1 hquery).flip hmem
      exact ⟨clause, hclause, halike.related hfield hfield' v hv⟩

/-- Items that are accepted alike one by one are accepted alike as the fields of a query. -/
theorem ofItems_alike {items items' : List Value}
    (h : List.Forall₂ (fun v v' => ∀ path, Concur Compatible (ofOperand limit depth path v)
      (ofOperand limit depth path v')) items items')
    (i : Nat) :
    Concur Compatible (ofItems limit depth path i items) (ofItems limit depth path i items') := by
  induction h generalizing i with
  | nil => exact .accepted fun v _ => .refl _
  | cons hfirst _ ih =>
    rw [ofItems, ofItems]
    refine (hfirst _).bind fun query query' hquery => ?_
    refine (ih (i + 1)).bind fun more more' hmore => .accepted ?_
    intro v hv
    exact .both (compatible_field _ hquery v hv) (hmore v hv)

/-- Operands that are accepted alike one by one are accepted alike. -/
theorem ofOperands_alike {items items' : List Value}
    (h : List.Forall₂ (fun v v' => ∀ path, Concur Compatible (memberOf limit depth path v)
      (memberOf limit depth path v')) items items')
    (i : Nat) :
    Concur (List.Forall₂ Compatible) (ofOperands limit depth path i items)
      (ofOperands limit depth path i items') := by
  induction h generalizing i with
  | nil => exact .accepted .nil
  | cons hfirst _ ih =>
    rw [ofOperands_cons, ofOperands_cons]
    refine (hfirst _).bind fun query query' hquery => ?_
    exact (ih (i + 1)).bind fun more more' hmore => .accepted (.cons hquery hmore)

/-- Equal parts are accepted alike as one of several operands if they are as the only one. -/
theorem memberOf_alike {v v' : Value} (h : (v == v') = true)
    (halike : Concur Compatible (ofOperand limit depth path v) (ofOperand limit depth path v')) :
    Concur Compatible (memberOf limit depth path v) (memberOf limit depth path v') := by
  cases Value.beq_iff_same.1 h with
  | undefined => exact .refused _ _
  | null | bool | number | bigint | string | regex | array | object => exact halike

/-- Computations that are alike give single operands alike. -/
theorem single_alike {x y : Except CompileError Query} (h : Concur Compatible x y) :
    Concur (List.Forall₂ Compatible) (x.map fun query => [query]) (y.map fun query => [query]) :=
  h.map fun _ _ hcompatible => .cons hcompatible .nil

/-- Equal values make clauses alike under a key if they are accepted alike as a query and under a
connective. -/
theorem clauseOf_alike {key : String} {v v' : Value} (hv : v.WellFormed) (hv' : v'.WellFormed)
    (h : (v == v') = true)
    (hquery : Concur Compatible (ofOperand limit depth (path ++ [key]) v)
      (ofOperand limit depth (path ++ [key]) v'))
    (hoperands : ∀ connective, Concur (List.Forall₂ Compatible)
      (operandsOf limit depth connective (path ++ [key]) v)
      (operandsOf limit depth connective (path ++ [key]) v')) :
    Concur Clause.Compatible (clauseOf limit depth path key v)
      (clauseOf limit depth path key v') := by
  unfold clauseOf
  cases Keyword.ofKey? key with
  | none => exact hquery.map fun _ _ hcompatible => compatible_field key hcompatible
  | some keyword =>
    cases keyword with
    | condition operator =>
      refine Concur.map (r := fun c c' => Clause.Compatible (.condition c) (.condition c')) ?_
        fun _ _ hcompatible => hcompatible
      refine (Condition.ofOperand_alike operator _ h).mono fun c c' hc hc' hsame => ?_
      exact compatible_condition (Condition.ofOperand_spec hv hc).1
        (Condition.ofOperand_spec hv' hc').1 hsame
    | logic connective =>
      exact (hoperands connective).map fun _ _ hcompatible =>
        compatible_logic connective hcompatible

/-- Equal objects are accepted alike as queries and make compatible ones, if equal values under a
key are accepted alike there. -/
theorem ofFields_alike_of_equal {xs ys : List (String × Value)} (hx : (Value.object xs).WellFormed)
    (hy : (Value.object ys).WellFormed) (h : (Value.object xs == .object ys) = true)
    (hvalue : ∀ key v v', xs.lookup key = some v → v.WellFormed → v'.WellFormed →
      (v == v') = true →
      Concur Compatible (ofOperand limit depth (path ++ [key]) v)
        (ofOperand limit depth (path ++ [key]) v') ∧
      ∀ connective, Concur (List.Forall₂ Compatible)
        (operandsOf limit depth connective (path ++ [key]) v)
        (operandsOf limit depth connective (path ++ [key]) v')) :
    Concur Compatible (ofFields limit depth path xs) (ofFields limit depth path ys) := by
  have hnodup := (Value.wellFormed_object.1 hx).1
  have hnodup' := (Value.wellFormed_object.1 hy).1
  rw [Value.object_beq_iff hnodup hnodup'] at h
  have hclause : ∀ {key : String} {v v' : Value}, xs.lookup key = some v →
      ys.lookup key = some v' → (v == v') = true →
      Concur Clause.Compatible (clauseOf limit depth path key v)
        (clauseOf limit depth path key v') := by
    intro key v v' hlookup hlookup' hvv
    have hv := Value.wellFormed_of_lookup hx hlookup
    have hv' := Value.wellFormed_of_lookup hy hlookup'
    obtain ⟨hquery, hoperands⟩ := hvalue key v v' hlookup hv hv' hvv
    exact clauseOf_alike hv hv' hvv hquery hoperands
  apply ofFields_alike
  · rintro ⟨key, v⟩ hmem
    have hlookup := (Fields.lookup_eq_some_iff hnodup).2 hmem
    obtain ⟨v', hlookup', hvv⟩ := h.exists_of_lookup hlookup
    exact ⟨(key, v'), Fields.mem_of_lookup hlookup', hclause hlookup hlookup' hvv⟩
  · rintro ⟨key, v'⟩ hmem
    have hlookup' := (Fields.lookup_eq_some_iff hnodup').2 hmem
    obtain ⟨v, hlookup, hvv⟩ := h.exists_of_lookup_right hlookup'
    exact ⟨(key, v), Fields.mem_of_lookup hlookup, hclause hlookup hlookup' hvv⟩

end

/-- Equal parts of a specification are accepted alike, whether they are queries or stand under a
connective, and make compatible queries. -/
theorem ofOperand_alike {limit : Nat} {v v' : Value} (hv : v.WellFormed) (hv' : v'.WellFormed)
    (h : (v == v') = true) :
    ∀ depth path, Concur Compatible (ofOperand limit depth path v) (ofOperand limit depth path v') ∧
      ∀ connective, Concur (List.Forall₂ Compatible) (operandsOf limit depth connective path v)
        (operandsOf limit depth connective path v') := by
  induction v using Value.induct generalizing v' with
  | undefined =>
    cases Value.beq_iff_same.1 h
    intro depth path
    exact ⟨.accepted (compatible_equality hv hv' h), fun _ => .refused _ _⟩
  | null | bool | number | bigint | string =>
    have hquery : Concur Compatible (Except.ok _ : Except CompileError Query) (.ok _) :=
      .accepted (compatible_equality hv hv' h)
    cases Value.beq_iff_same.1 h
    intro depth path
    exact ⟨hquery, fun _ => single_alike hquery⟩
  | regex p =>
    cases Value.beq_iff_same.1 h
    have hquery : Concur Compatible
        (Except.ok [.condition (.pattern false p)] : Except CompileError Query)
        (.ok [.condition (.pattern false p)]) := .accepted fun _ _ => .refl _
    intro depth path
    exact ⟨hquery, fun _ => single_alike hquery⟩
  | array xs ih =>
    cases Value.beq_iff_same.1 h with
    | @array _ ys hitems =>
      rw [Value.wellFormed_array] at hv hv'
      intro depth path
      constructor
      · refine Concur.within (ofItems_alike ?_ 0) _ _
        refine Value.forall₂_mono_of_mem hitems fun x hx y hy hxy path => ?_
        exact (ih x hx (hv x hx) (hv' y hy) hxy _ path).1
      · intro connective
        cases hitems with
        | nil => exact .refused _ _
        | cons hfirst hrest =>
          refine ofOperands_alike ?_ 0
          refine Value.forall₂_mono_of_mem (.cons hfirst hrest) fun x hx y hy hxy path => ?_
          exact memberOf_alike hxy (ih x hx (hv x hx) (hv' y hy) hxy _ path).1
  | object xs ih =>
    cases Value.beq_iff_same.1 h with
    | @object _ ys =>
      have hquery : ∀ depth path, Concur Compatible (ofOperand limit depth path (.object xs))
          (ofOperand limit depth path (.object ys)) := by
        intro depth path
        refine Concur.within (ofFields_alike_of_equal hv hv' h ?_) _ _
        intro key v v' hlookup hw hw' hvv
        exact ih _ (Fields.mem_of_lookup hlookup) hw hw' hvv (depth + 1) (path ++ [key])
      intro depth path
      exact ⟨hquery depth path, fun _ => single_alike (hquery depth path)⟩

/-- Equal specifications are accepted alike and make compatible queries. -/
theorem ofSpecification_alike (limit : Nat) {spec spec' : Value} (hw : spec.WellFormed)
    (hw' : spec'.WellFormed) (h : (spec == spec') = true) :
    Concur Compatible (ofSpecification limit spec) (ofSpecification limit spec') := by
  cases Value.beq_iff_same.1 h with
  | array hitems =>
    rw [Value.wellFormed_array] at hw hw'
    refine ofItems_alike (Value.forall₂_mono_of_mem hitems fun x hx y hy hxy path => ?_) 0
    exact (ofOperand_alike (hw x hx) (hw' y hy) hxy 0 path).1
  | object =>
    refine ofFields_alike_of_equal hw hw' h fun key v v' _ hv hv' hvv => ?_
    exact ofOperand_alike hv hv' hvv 0 _
  | undefined | null | bool | number | bigint | string | regex => exact .refused _ _

end Query

end RecordQuery
