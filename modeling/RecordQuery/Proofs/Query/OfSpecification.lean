import RecordQuery.Proofs.Value.Elements
import RecordQuery.Query.OfSpecification

/-!
# What a query takes from its specification

`ofSpecification_spec`: a query that a well-formed specification asks for has well-formed operands,
connectives in it have operands, and the texts that it goes by, which are its field names, type
names, text operands and texts in lists, all stand in the specification as keys, indices or texts.
-/

namespace RecordQuery

/-- What a computation in two steps succeeds with. -/
theorem bind_eq_ok {ε α β : Type} {x : Except ε α} {f : α → Except ε β} {b : β} :
    (x >>= f) = .ok b ↔ ∃ a, x = .ok a ∧ f a = .ok b := by
  cases x with
  | ok a => simp [bind, Except.bind]
  | error e => simp [bind, Except.bind]

/-- What a mapped computation succeeds with. -/
theorem map_eq_ok {ε α β : Type} {x : Except ε α} {f : α → β} {b : β} :
    x.map f = .ok b ↔ ∃ a, x = .ok a ∧ f a = b := by
  cases x with
  | ok a => simp [Except.map]
  | error e => simp [Except.map]

/-- What is made of a part that may lie so deep is made of it. -/
theorem Specification.within_eq_ok {α : Type} {limit depth : Nat} {made : Except CompileError α}
    {a : α} (h : within limit depth made = .ok a) : made = .ok a := by
  unfold within at h
  split at h
  · cases h
  · exact h

/-! ## Texts -/

mutual
/-- The keys, indices and texts in a value. -/
def Value.texts : Value → List String
  | .string s => [s]
  | .array items => itemsTexts 0 items
  | .object fields => fieldsTexts fields
  | _ => []

/-- The indices of items from the given one on, and the texts in the items. -/
def Value.itemsTexts : Nat → List Value → List String
  | _, [] => []
  | i, v :: rest => Text.decimal i :: v.texts ++ itemsTexts (i + 1) rest

/-- The keys of fields and the texts in the fields. -/
def Value.fieldsTexts : List (String × Value) → List String
  | [] => []
  | (key, v) :: rest => key :: v.texts ++ fieldsTexts rest
end

/-- The text that a value is. -/
def Value.ownTexts : Value → List String
  | .string s => [s]
  | _ => []

/-- The type name, the text operand or the texts in the list of a condition. -/
def Condition.texts : Condition → List String
  | equality _ operand => operand.ownTexts
  | relation _ operand => operand.ownTexts
  | inclusion _ operand => operand.ownTexts
  | type _ name => [name]
  | membership _ items => items.flatMap Value.ownTexts
  | subset _ items => items.flatMap Value.ownTexts
  | superset _ items => items.flatMap Value.ownTexts
  | overlap _ (.array items) => items.flatMap Value.ownTexts
  | overlap _ operand => operand.ownTexts
  | _ => []

/-- A value that is a text is one of its texts. -/
theorem Value.ownTexts_subset (v : Value) : v.ownTexts ⊆ v.texts := by
  cases v with
  | string s => exact List.Subset.refl _
  | undefined | null | bool | number | bigint | regex | array | object => exact List.nil_subset _

/-- Items that are texts are texts in the array. -/
theorem Value.flatMap_ownTexts_subset (items : List Value) :
    items.flatMap Value.ownTexts ⊆ (Value.array items).texts := by
  have hitems : ∀ (items : List Value) (i : Nat),
      items.flatMap Value.ownTexts ⊆ itemsTexts i items := by
    intro items
    induction items with
    | nil => exact fun _ => List.Subset.refl _
    | cons v rest ih =>
      intro i
      rw [List.flatMap_cons, itemsTexts]
      refine List.append_subset.2 ⟨fun s hs => ?_, fun s hs => ?_⟩
      · exact List.mem_append_left _ (.tail _ (v.ownTexts_subset hs))
      · exact List.mem_append_right _ (ih (i + 1) hs)
  rw [texts]
  exact hitems items 0

/-! ## Conditions -/

namespace Condition

/-- The operands of the condition are well formed. -/
def WellFormed : Condition → Prop
  | equality _ operand => operand.WellFormed
  | relation _ operand => operand.WellFormed
  | inclusion _ operand => operand.WellFormed
  | membership _ items => ∀ v ∈ items, v.WellFormed
  | subset _ items => ∀ v ∈ items, v.WellFormed
  | superset _ items => ∀ v ∈ items, v.WellFormed
  | overlap _ operand => operand.WellFormed
  | _ => True

/-- The items of a well-formed operand are well formed, and their texts are its texts. -/
theorem itemsOf_spec {operator : Operator} {path : Path} {operand : Value}
    (hw : operand.WellFormed) {items : List Value} (h : itemsOf operator path operand = .ok items) :
    (∀ v ∈ items, v.WellFormed) ∧ items.flatMap Value.ownTexts ⊆ operand.texts := by
  cases operand with
  | array xs =>
    cases h
    exact ⟨Value.wellFormed_array.1 hw, Value.flatMap_ownTexts_subset _⟩
  | undefined | null | bool | number | bigint | string | regex | object => cases h

/-- A condition takes well-formed operands and its texts from its operand. -/
theorem ofOperand_spec {operator : Operator} {path : Path} {operand : Value}
    (hw : operand.WellFormed) {c : Condition} (h : ofOperand operator path operand = .ok c) :
    c.WellFormed ∧ c.texts ⊆ operand.texts := by
  cases operator with
  | equality | relation | inclusion =>
    cases h
    exact ⟨hw, Value.ownTexts_subset operand⟩
  | existence | pattern | bits =>
    obtain ⟨_, _, rfl⟩ := map_eq_ok.1 h
    exact ⟨trivial, List.nil_subset _⟩
  | type negated =>
    obtain ⟨name, hname, rfl⟩ := map_eq_ok.1 h
    refine ⟨trivial, ?_⟩
    cases operand with
    | string s =>
      cases hname
      exact List.Subset.refl _
    | undefined | null | bool | number | bigint | regex | array | object => cases hname
  | membership | subset | superset =>
    obtain ⟨items, hitems, rfl⟩ := map_eq_ok.1 h
    exact itemsOf_spec hw hitems
  | overlap negated =>
    cases h
    refine ⟨hw, ?_⟩
    have hown := Value.ownTexts_subset operand
    cases operand with
    | array items => exact Value.flatMap_ownTexts_subset items
    | undefined | null | bool | number | bigint | string | regex | object => exact hown

end Condition

/-! ## Clauses -/

namespace Clause

mutual
/-- Operands are well formed, and connectives have operands. -/
def WellFormed : Clause Condition → Prop
  | condition c => c.WellFormed
  | logic _ operands => operands ≠ [] ∧ WellFormedQueries operands
  | field _ query => WellFormedLevel query

/-- The clauses are well formed. -/
def WellFormedLevel : List (Clause Condition) → Prop
  | [] => True
  | clause :: rest => clause.WellFormed ∧ WellFormedLevel rest

/-- The queries are well formed. -/
def WellFormedQueries : List (List (Clause Condition)) → Prop
  | [] => True
  | query :: rest => WellFormedLevel query ∧ WellFormedQueries rest
end

mutual
/-- The field names in a clause and the texts of its conditions. -/
def texts : Clause Condition → List String
  | condition c => c.texts
  | logic _ operands => queriesTexts operands
  | field key query => key :: levelTexts query

/-- The field names in clauses and the texts of their conditions. -/
def levelTexts : List (Clause Condition) → List String
  | [] => []
  | clause :: rest => clause.texts ++ levelTexts rest

/-- The field names in queries and the texts of their conditions. -/
def queriesTexts : List (List (Clause Condition)) → List String
  | [] => []
  | query :: rest => levelTexts query ++ queriesTexts rest
end

end Clause

/-! ## Queries -/

namespace Query

open Clause

/-- The query takes its texts from the given ones and is well formed. -/
def TakenFrom (texts : List String) (query : Query) : Prop :=
  WellFormedLevel query ∧ levelTexts query ⊆ texts

/-- A query on a single value is taken from the value. -/
theorem takenFrom_condition {c : Condition} {texts : List String} (hc : c.WellFormed)
    (htexts : c.texts ⊆ texts) : TakenFrom texts [.condition c] :=
  ⟨⟨hc, trivial⟩, by simpa [levelTexts, Clause.texts] using htexts⟩

mutual
/-- The query of a part is taken from the part. -/
theorem ofOperand_spec {limit depth : Nat} {path : Path} : ∀ {v : Value} {query : Query},
    v.WellFormed → ofOperand limit depth path v = .ok query → TakenFrom v.texts query
  | .regex p, _, _, h => by
    cases h
    exact takenFrom_condition trivial (List.nil_subset _)
  | .object fields, _, hw, h => by
    have hfields := ofFields_spec hw.2 (Specification.within_eq_ok h)
    exact hfields
  | .array items, _, hw, h => ofItems_spec hw (Specification.within_eq_ok h)
  | .undefined, _, _, h => by
    cases h
    exact takenFrom_condition trivial (List.nil_subset _)
  | .null, _, _, h => by
    cases h
    exact takenFrom_condition trivial (List.nil_subset _)
  | .bool b, _, _, h => by
    cases h
    exact takenFrom_condition trivial (List.nil_subset _)
  | .number n, _, _, h => by
    cases h
    exact takenFrom_condition trivial (List.nil_subset _)
  | .bigint n, _, _, h => by
    cases h
    exact takenFrom_condition trivial (List.nil_subset _)
  | .string s, _, _, h => by
    cases h
    exact takenFrom_condition trivial (List.Subset.refl _)

/-- The clauses of fields are taken from the fields. -/
theorem ofFields_spec {limit depth : Nat} {path : Path} :
    ∀ {fields : List (String × Value)} {query : Query}, Value.WellFormedFields fields →
      ofFields limit depth path fields = .ok query → TakenFrom (Value.fieldsTexts fields) query
  | [], _, _, h => by
    cases h
    exact ⟨trivial, List.nil_subset _⟩
  | (key, v) :: rest, query, hw, h => by
    have hcons : ∀ clause : Clause Condition, clause.WellFormed → clause.texts ⊆ key :: v.texts →
        (ofFields limit depth path rest >>= fun more => pure (clause :: more)) = .ok query →
        TakenFrom (Value.fieldsTexts ((key, v) :: rest)) query := by
      intro clause hwc hctexts h
      obtain ⟨more, hmore, h⟩ := bind_eq_ok.1 h
      cases h
      obtain ⟨hwm, hmtexts⟩ := ofFields_spec hw.2 hmore
      exact ⟨⟨hwc, hwm⟩, List.append_subset.2 ⟨List.subset_append_of_subset_left _ hctexts,
        List.subset_append_of_subset_right _ hmtexts⟩⟩
    rw [ofFields] at h
    generalize Keyword.ofKey? key = keyword at h
    match keyword, v, hw, hcons, h with
    | some (.condition operator), v, hw, hcons, h =>
      obtain ⟨clause, hclause, h⟩ := bind_eq_ok.1 h
      obtain ⟨c, hc, rfl⟩ := map_eq_ok.1 hclause
      obtain ⟨hwc, htexts⟩ := Condition.ofOperand_spec hw.1 hc
      exact hcons (.condition c) hwc (List.subset_cons_of_subset key htexts) h
    | some (.logic connective), .array (first :: more), hw, hcons, h =>
      obtain ⟨clause, hclause, h⟩ := bind_eq_ok.1 h
      obtain ⟨queries, hqueries, rfl⟩ := map_eq_ok.1 hclause
      obtain ⟨hwq, htexts, hlength⟩ := ofOperands_spec hw.1 hqueries
      refine hcons (.logic _ queries) ⟨fun hnil => ?_, hwq⟩
        (List.subset_cons_of_subset key htexts) h
      rw [hnil] at hlength
      cases hlength
    | some (.logic _), .array [], _, _, h => cases h
    | some (.logic _), .undefined, _, _, h => cases h
    | some (.logic _), .null, hw, hcons, h | some (.logic _), .bool _, hw, hcons, h
    | some (.logic _), .number _, hw, hcons, h | some (.logic _), .bigint _, hw, hcons, h
    | some (.logic _), .string _, hw, hcons, h | some (.logic _), .regex _, hw, hcons, h
    | some (.logic _), .object _, hw, hcons, h =>
      obtain ⟨clause, hclause, h⟩ := bind_eq_ok.1 h
      obtain ⟨query, hquery, rfl⟩ := map_eq_ok.1 hclause
      obtain ⟨hwq, htexts⟩ := ofOperand_spec hw.1 hquery
      refine hcons (.logic _ [query]) ⟨List.cons_ne_nil _ _, hwq, trivial⟩ ?_ h
      simpa [Clause.texts, queriesTexts] using List.subset_cons_of_subset key htexts
    | none, v, hw, hcons, h =>
      obtain ⟨clause, hclause, h⟩ := bind_eq_ok.1 h
      obtain ⟨query, hquery, rfl⟩ := map_eq_ok.1 hclause
      obtain ⟨hwq, htexts⟩ := ofOperand_spec hw.1 hquery
      exact hcons (.field key query) hwq (List.cons_subset_cons key htexts) h

/-- The clauses of items are taken from the items. -/
theorem ofItems_spec {limit depth : Nat} {path : Path} : ∀ {i : Nat} {items : List Value}
    {query : Query}, Value.WellFormedItems items →
      ofItems limit depth path i items = .ok query → TakenFrom (Value.itemsTexts i items) query
  | _, [], _, _, h => by
    cases h
    exact ⟨trivial, List.nil_subset _⟩
  | i, v :: rest, query, hw, h => by
    rw [ofItems] at h
    obtain ⟨first, hfirst, h⟩ := bind_eq_ok.1 h
    obtain ⟨more, hmore, h⟩ := bind_eq_ok.1 h
    cases h
    obtain ⟨hwf, hftexts⟩ := ofOperand_spec hw.1 hfirst
    obtain ⟨hwm, hmtexts⟩ := ofItems_spec hw.2 hmore
    exact ⟨⟨hwf, hwm⟩, List.append_subset.2 ⟨List.subset_append_of_subset_left _
      (List.cons_subset_cons _ hftexts), List.subset_append_of_subset_right _ hmtexts⟩⟩

/-- The queries of operands are taken from the operands. -/
theorem ofOperands_spec {limit depth : Nat} {path : Path} : ∀ {i : Nat} {items : List Value}
    {queries : List Query}, Value.WellFormedItems items →
      ofOperands limit depth path i items = .ok queries →
      WellFormedQueries queries ∧ queriesTexts queries ⊆ Value.itemsTexts i items ∧
        queries.length = items.length
  | _, [], _, _, h => by
    cases h
    exact ⟨trivial, List.nil_subset _, rfl⟩
  | i, v :: rest, query, hw, h => by
    have hfirst : ∃ first, ofOperand limit depth (path ++ [Text.decimal i]) v = .ok first ∧
        (ofOperands limit depth path (i + 1) rest >>= fun more => pure (first :: more)) =
          .ok query := by
      cases v with
      | undefined => cases h
      | null | bool | number | bigint | string | regex | array | object => exact bind_eq_ok.1 h
    obtain ⟨first, hfirst, h⟩ := hfirst
    obtain ⟨more, hmore, h⟩ := bind_eq_ok.1 h
    cases h
    obtain ⟨hwf, hftexts⟩ := ofOperand_spec hw.1 hfirst
    obtain ⟨hwm, hmtexts, hlength⟩ := ofOperands_spec hw.2 hmore
    refine ⟨⟨hwf, hwm⟩, List.append_subset.2 ⟨List.subset_append_of_subset_left _
      (List.subset_cons_of_subset _ hftexts), List.subset_append_of_subset_right _ hmtexts⟩, ?_⟩
    rw [List.length_cons, List.length_cons, hlength]
end

/-- The query of a specification is taken from the specification. -/
theorem ofSpecification_spec {limit : Nat} {spec : Value} {query : Query} (hw : spec.WellFormed)
    (h : ofSpecification limit spec = .ok query) : TakenFrom spec.texts query := by
  cases spec with
  | object fields => exact ofFields_spec hw.2 h
  | array items => exact ofItems_spec hw h
  | undefined | null | bool | number | bigint | string | regex => cases h

end Query

end RecordQuery
