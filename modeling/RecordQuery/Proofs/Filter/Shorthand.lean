import RecordQuery.Filter.Basic
import RecordQuery.Proofs.Query.Placement

/-!
# Shorthands

A specification may say less than it means: a bare value in the place of a query stands for a match
or an equality, and a single operand of a connective for the array of that one operand.
`Value.explicit` writes all of this out, at every depth at once, and leaves alone what operators
take. What it writes out means the same (`restates_explicit`), one level deeper at most, because a
bare value becomes an object. So the filter of a specification is the filter of the specification
written out (`Filter.ofSpecification_explicit`).
-/

namespace RecordQuery

/-! ## Writing shorthands out -/

namespace Value

/-- An array itself, and the array of any other value. -/
def inArray : Value → Value
  | array items => array items
  | v => array [v]

mutual
/-- The value as a query, with its shorthands written out: a bare value is put under the operator of
the condition that it stands for. -/
def explicit : Value → Value
  | regex p => object [("$match", regex p)]
  | array items => array (explicitItems items)
  | object fields => object (explicitFields fields)
  | v => object [("$eq", v)]

/-- Items as queries, with their shorthands written out. -/
def explicitItems : List Value → List Value
  | [] => []
  | v :: rest => v.explicit :: explicitItems rest

/-- Fields of a query, with their shorthands written out. The operand of an operator stays as it is,
and a single operand of a connective is put in an array. -/
def explicitFields : List (String × Value) → List (String × Value)
  | [] => []
  | (key, v) :: rest =>
    (key, match Keyword.ofKey? key with
      | some (.condition _) => v
      | some (.logic _) => v.explicit.inArray
      | none => v.explicit) :: explicitFields rest
end

/-- No value is undefined when it is written out. -/
theorem explicit_ne_undefined (v : Value) : v.explicit ≠ .undefined := by
  cases v <;> nofun

end Value

namespace Query

open Specification.Reader

variable {more : Nat}

/-- Items are written out one by one. -/
theorem forall₂_explicitItems {r : Value → Value → Prop} {items : List Value}
    (h : ∀ v ∈ items, r v v.explicit) : List.Forall₂ r items (Value.explicitItems items) := by
  induction items with
  | nil => exact .nil
  | cons v rest ih =>
    rw [List.forall_mem_cons] at h
    exact .cons h.1 (ih h.2)

/-- Fields are written out one by one, each in the role that its key gives it. -/
theorem carriesOver_explicitFields {fields : List (String × Value)}
    (h : ∀ field ∈ fields, Restates 1 field.2 field.2.explicit ∧
      RestatesOperands 1 field.2 field.2.explicit.inArray) :
    CarriesOver 1 (ofFields · · · fields) (ofFields · · · (Value.explicitFields fields)) := by
  apply carriesOver_ofFields
  induction fields with
  | nil => exact .nil
  | cons field rest ih =>
    obtain ⟨key, v⟩ := field
    rw [List.forall_mem_cons] at h
    refine .cons ?_ (ih h.2)
    refine carriesOver_clauseOf ?_ ?_ ?_
    · intro operator hkey
      simp only [hkey]
    · intro connective hkey
      simp only [hkey]
      exact h.1.2
    · intro hkey
      simp only [hkey]
      exact h.1.1

/-- A bare value says what the object says that has it under the operator of its condition. -/
theorem restates_bare {v : Value} (operator : Operator) {c : Condition}
    (hread : ∀ limit depth path, ofOperand limit depth path v = .ok [.condition c])
    (hcondition : ∀ path, Condition.ofOperand operator path v = .ok c) :
    Restates 1 v (.object [(operator.name, v)]) := by
  intro limit depth path query hle hquery limit' depth' path' hroom
  obtain rfl := Except.ok.inj ((hread limit depth path).symm.trans hquery)
  refine Specification.within_eq_ok_iff.2 ⟨by omega, ofFields_eq_ok.2 (.cons ?_ .nil)⟩
  have hkey : Keyword.ofKey? operator.name = some (.condition operator) :=
    Keyword.ofKey?_name (.condition operator)
  simp only [clauseOf, hkey]
  exact map_eq_ok.2 ⟨c, hcondition _, rfl⟩

/-- A single operand of a connective says what an array of one operand says that restates it. -/
theorem restatesOperands_single {v v' : Value} (h : Restates more v v')
    (harray : ∀ items, v ≠ .array items) (hdefined : v' ≠ .undefined) :
    RestatesOperands more v (.array [v']) := by
  intro connective limit depth path queries hle hread limit' depth' path' hroom
  obtain ⟨query, hquery, rfl⟩ := map_eq_ok.1 ((operandsOf_eq_map harray).symm.trans hread)
  -- the operand moves to the path of the first item, but not to another depth
  have hmember : memberOf limit' depth' (path' ++ [Text.decimal 0]) v' = .ok query :=
    carriesOver_memberOf h (absurd · hdefined) hle hquery hroom
  exact (ofOperands_cons 0 v' []).trans (bind_eq_ok.2 ⟨query, hmember, rfl⟩)

/-- A value that is no array says the same written out, under connectives too, if it does as a
query. -/
theorem restates_explicit_of_query {v : Value} (harray : ∀ items, v ≠ .array items)
    (h : Restates 1 v v.explicit) :
    Restates 1 v v.explicit ∧ RestatesOperands 1 v v.explicit.inArray := by
  have hsingle := restatesOperands_single h harray v.explicit_ne_undefined
  cases v with
  | array items => exact absurd rfl (harray items)
  | undefined | null | bool | number | bigint | string | regex | object => exact ⟨h, hsingle⟩

/-- A value written out says what the value says, as a query and under connectives. -/
theorem restates_explicit (v : Value) :
    Restates 1 v v.explicit ∧ RestatesOperands 1 v v.explicit.inArray := by
  induction v using Value.induct with
  | undefined | null | bool | number | bigint | string =>
    refine restates_explicit_of_query nofun ?_
    exact restates_bare (.equality false) (fun _ _ _ => rfl) fun _ => rfl
  | regex p =>
    refine restates_explicit_of_query nofun ?_
    exact restates_bare (.pattern false) (fun _ _ _ => rfl) fun _ => rfl
  | array items ih =>
    constructor
    · exact (carriesOver_ofItems (forall₂_explicitItems fun v hv => (ih v hv).1) 0).within
    · refine restatesOperands_array (forall₂_explicitItems fun v hv => ?_)
      exact carriesOver_memberOf (ih v hv).1 (absurd · v.explicit_ne_undefined)
  | object fields ih =>
    refine restates_explicit_of_query nofun ?_
    exact (carriesOver_explicitFields ih).within

end Query

/-! ## Filters -/

/-- The filter of a specification is also the filter of the specification with its shorthands
written out, which may be nested one level more: its source, its declarations and slots and its
verdicts are the same. -/
theorem Filter.ofSpecification_explicit {limit : Nat} {spec : Value} {filter : Filter}
    (hdefined : spec ≠ .undefined) (h : ofSpecification limit spec = .ok filter) :
    ofSpecification (limit + 1) spec.explicit = .ok filter := by
  cases spec with
  | undefined => exact absurd rfl hdefined
  | null | bool | number | bigint | string | regex => exact h
  | array items =>
    obtain ⟨query, hquery, rfl⟩ := map_eq_ok.1 h
    refine map_eq_ok.2 ⟨query, ?_, rfl⟩
    have hitems : List.Forall₂ (Query.Restates 1) items (Value.explicitItems items) :=
      Query.forall₂_explicitItems fun v _ => (Query.restates_explicit v).1
    exact Query.carriesOver_ofItems hitems 0 limit.zero_le hquery (by omega)
  | object fields =>
    obtain ⟨query, hquery, rfl⟩ := map_eq_ok.1 h
    refine map_eq_ok.2 ⟨query, ?_, rfl⟩
    have hfields := Query.carriesOver_explicitFields fun field (_ : field ∈ fields) =>
      Query.restates_explicit field.2
    exact hfields limit.zero_le hquery (by omega)

/-- Patterns and other bare values, in fields and items, under connectives and beside operators. -/
theorem Filter.ofSpecification_explicit_of_nested :
    let p : Pattern := ⟨"x", "", _, rfl⟩
    let spec : Value := .object
      [("name", .regex p), ("sizes", .array [.bool true, .object [("$not", .string "big")]]),
        ("$or", .array [.regex p, .object [("kind", .null), ("$in", .array [.null])]])]
    ∃ filter, ofSpecification 2 spec = .ok filter ∧ spec.explicit = .object
      [("name", .object [("$match", .regex p)]),
        ("sizes", .array [.object [("$eq", .bool true)],
          .object [("$not", .array [.object [("$eq", .string "big")]])]]),
        ("$or", .array [.object [("$match", .regex p)],
          .object [("kind", .object [("$eq", .null)]), ("$in", .array [.null])]])] ∧
      ofSpecification 3 spec.explicit = .ok filter := by
  intro p spec
  obtain ⟨filter, hfilter⟩ : ∃ filter, ofSpecification 2 spec = .ok filter := ⟨_, rfl⟩
  exact ⟨filter, hfilter, rfl, ofSpecification_explicit nofun hfilter⟩

end RecordQuery
