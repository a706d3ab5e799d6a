import RecordQuery.Proofs.Query.Reordering

/-!
# The place of a part in a specification

What a part of a specification says as a query does not depend on where it stands, so long as there
is room for what is nested in it. `Reader.CarriesOver` says so of two readers, of which the second
may need some levels more: what the first makes of a part in one place, the second makes of its part
in every place with as much room. It is closed under everything that specifications are read with,
so that a part can be moved (`restates_refl`) or put in other words (`Restates`) field by field and
item by item.
-/

namespace RecordQuery

namespace Specification

/-- A part that may lie so deep gives what is made of it, if the limit allows the depth. -/
theorem within_eq_ok_iff {α : Type} {limit depth : Nat} {made : Except CompileError α} {a : α} :
    within limit depth made = .ok a ↔ depth ≤ limit ∧ made = .ok a := by
  unfold within
  split
  · exact iff_of_false nofun (by omega)
  · exact (and_iff_right (by omega)).symm

/-- What reads a part of a specification, given the limit, and the depth and path of the part. -/
abbrev Reader (α : Type) := Nat → Nat → Path → Except CompileError α

namespace Reader

variable {α β : Type} {more : Nat} {read read' : Reader α}

/-- What the first reader makes of its part in one place, the second makes of its part wherever
there are as many levels left, and `more` on top. -/
def CarriesOver (more : Nat) (read read' : Reader α) : Prop :=
  ∀ ⦃limit depth path a⦄, depth ≤ limit → read limit depth path = .ok a →
    ∀ ⦃limit' depth' path'⦄, depth' + (limit - depth) + more ≤ limit' →
      read' limit' depth' path' = .ok a

/-- A result carries over. -/
theorem carriesOver_ok (a : α) : CarriesOver more (fun _ _ _ => .ok a) (fun _ _ _ => .ok a) :=
  fun _ _ _ _ _ h _ _ _ _ => h

/-- What is refused everywhere carries over to anything. -/
theorem carriesOver_error {e : Path → CompileError} :
    CarriesOver more (fun _ _ path => .error (e path)) read' :=
  fun _ _ _ _ _ h => by cases h

/-- A part under a key carries over if it does by itself. -/
theorem CarriesOver.under (h : CarriesOver more read read') (key : String) :
    CarriesOver more (fun limit depth path => read limit depth (path ++ [key]))
      (fun limit depth path => read' limit depth (path ++ [key])) :=
  fun _ _ _ _ hle hread _ _ _ hroom => h hle hread hroom

/-- What is made of a result carries over. -/
theorem CarriesOver.map (h : CarriesOver more read read') (f : α → β) :
    CarriesOver more (fun limit depth path => (read limit depth path).map f)
      (fun limit depth path => (read' limit depth path).map f) := by
  intro limit depth path b hle hread limit' depth' path' hroom
  obtain ⟨a, ha, rfl⟩ := map_eq_ok.1 hread
  exact map_eq_ok.2 ⟨a, h hle ha hroom, rfl⟩

/-- What is made of two results carries over if both do. -/
theorem CarriesOver.map₂ {next next' : Reader β} {γ : Type} (h : CarriesOver more read read')
    (hnext : CarriesOver more next next') (f : α → β → γ) :
    CarriesOver more
      (fun limit depth path =>
        read limit depth path >>= fun a => next limit depth path >>= fun b => .ok (f a b))
      (fun limit depth path =>
        read' limit depth path >>= fun a => next' limit depth path >>= fun b => .ok (f a b)) := by
  intro limit depth path c hle hread limit' depth' path' hroom
  obtain ⟨a, ha, hread⟩ := bind_eq_ok.1 hread
  obtain ⟨b, hb, hc⟩ := bind_eq_ok.1 hread
  exact bind_eq_ok.2 ⟨a, h hle ha hroom, bind_eq_ok.2 ⟨b, hnext hle hb hroom, hc⟩⟩

/-- What lies a level deeper carries over. -/
theorem CarriesOver.within (h : CarriesOver more read read') :
    CarriesOver more
      (fun limit depth path => Specification.within limit (depth + 1) (read limit (depth + 1) path))
      (fun limit depth path =>
        Specification.within limit (depth + 1) (read' limit (depth + 1) path)) := by
  intro limit depth path a hle hread limit' depth' path' hroom
  obtain ⟨hdepth, ha⟩ := within_eq_ok_iff.1 hread
  exact within_eq_ok_iff.2 ⟨by omega, h hdepth ha (by omega)⟩

end Reader

end Specification

open Specification.Reader

/-- An operand makes the same condition wherever it stands. -/
theorem Condition.ofOperand_elsewhere {operator : Operator} {path : Path} {v : Value}
    {c : Condition} (h : ofOperand operator path v = .ok c) (path' : Path) :
    ofOperand operator path' v = .ok c := by
  cases operator with
  | equality | relation | inclusion | overlap => exact h
  | existence | pattern | bits | type | membership | subset | superset =>
    obtain ⟨operand, hoperand, rfl⟩ := map_eq_ok.1 h
    refine map_eq_ok.2 ⟨operand, ?_, rfl⟩
    cases v <;> first | exact hoperand | cases hoperand

namespace Query

variable {more : Nat}

/-- The second value says as a query what the first says, with so many levels more. -/
def Restates (more : Nat) (v v' : Value) : Prop :=
  CarriesOver more (ofOperand · · · v) (ofOperand · · · v')

/-- The second value says under a connective what the first says, with so many levels more. -/
def RestatesOperands (more : Nat) (v v' : Value) : Prop :=
  ∀ connective, CarriesOver more (operandsOf · · connective · v) (operandsOf · · connective · v')

/-- A field says what another says if its value does, in the role that the key gives it. -/
theorem carriesOver_clauseOf {key : String} {v v' : Value}
    (hcondition : ∀ operator, Keyword.ofKey? key = some (.condition operator) → v' = v)
    (hlogic : ∀ connective, Keyword.ofKey? key = some (.logic connective) →
      RestatesOperands more v v')
    (hfield : Keyword.ofKey? key = none → Restates more v v') :
    CarriesOver more (clauseOf · · · key v) (clauseOf · · · key v') := by
  unfold clauseOf
  cases hkey : Keyword.ofKey? key with
  | none => exact ((hfield hkey).under key).map (Clause.field key)
  | some keyword =>
    cases keyword with
    | condition operator =>
      obtain rfl := hcondition operator hkey
      refine CarriesOver.map ?_ Clause.condition
      intro limit depth path c _ hc limit' depth' path' _
      exact Condition.ofOperand_elsewhere hc _
    | logic connective =>
      exact ((hlogic connective hkey connective).under key).map (Clause.logic connective)

/-- Fields say what other fields say if each of them does. -/
theorem carriesOver_ofFields {fields fields' : List (String × Value)}
    (h : List.Forall₂ (fun field field' => CarriesOver more (clauseOf · · · field.1 field.2)
      (clauseOf · · · field'.1 field'.2)) fields fields') :
    CarriesOver more (ofFields · · · fields) (ofFields · · · fields') := by
  induction h with
  | nil => exact carriesOver_ok []
  | @cons field field' rest rest' hfirst _ ih =>
    obtain ⟨key, v⟩ := field
    obtain ⟨key', v'⟩ := field'
    simp only [ofFields_cons]
    exact hfirst.map₂ ih List.cons

/-- Items say what other items say if each of them does. -/
theorem carriesOver_ofItems {items items' : List Value}
    (h : List.Forall₂ (Restates more) items items') (i : Nat) :
    CarriesOver more (ofItems · · · i items) (ofItems · · · i items') := by
  induction h generalizing i with
  | nil => exact carriesOver_ok []
  | cons hfirst _ ih =>
    simp only [ofItems]
    exact (hfirst.under _).map₂ (ih (i + 1)) fun query => List.cons (.field (Text.decimal i) query)

/-- A value that is defined is read the same as one of several operands and as a query. -/
theorem memberOf_of_ne {limit depth : Nat} {path : Path} {v : Value} (h : v ≠ .undefined) :
    memberOf limit depth path v = ofOperand limit depth path v := by
  cases v with
  | undefined => exact absurd rfl h
  | null | bool | number | bigint | string | regex | array | object => rfl

/-- A single operand of a connective is read like one of several. -/
theorem operandsOf_eq_map {limit depth : Nat} {connective : Connective} {path : Path} {v : Value}
    (harray : ∀ items, v ≠ .array items) : operandsOf limit depth connective path v =
      (memberOf limit depth path v).map fun query => [query] := by
  cases v with
  | array items => exact absurd rfl (harray items)
  | undefined | null | bool | number | bigint | string | regex | object => rfl

/-- One of several operands says what another says if it does as a query. -/
theorem carriesOver_memberOf {v v' : Value} (h : Restates more v v')
    (hdefined : v' = .undefined → v = .undefined) :
    CarriesOver more (memberOf · · · v) (memberOf · · · v') := by
  intro limit depth path query hle hquery limit' depth' path' hroom
  have hv : v ≠ .undefined := by
    rintro rfl
    cases hquery
  exact (memberOf_of_ne (mt hdefined hv)).trans
    (h hle ((memberOf_of_ne hv).symm.trans hquery) hroom)

/-- Operands say what other operands say if each of them does. -/
theorem carriesOver_ofOperands {items items' : List Value}
    (h : List.Forall₂ (fun v v' => CarriesOver more (memberOf · · · v) (memberOf · · · v'))
      items items') (i : Nat) :
    CarriesOver more (ofOperands · · · i items) (ofOperands · · · i items') := by
  induction h generalizing i with
  | nil => exact carriesOver_ok []
  | cons hfirst _ ih =>
    simp only [ofOperands_cons]
    exact (hfirst.under _).map₂ (ih (i + 1)) List.cons

/-- An array of operands says what another says if its items do. -/
theorem restatesOperands_array {items items' : List Value}
    (h : List.Forall₂ (fun v v' => CarriesOver more (memberOf · · · v) (memberOf · · · v'))
      items items') :
    RestatesOperands more (.array items) (.array items') := by
  intro connective
  cases h with
  | nil => exact carriesOver_error
  | cons hfirst hrest => exact carriesOver_ofOperands (.cons hfirst hrest) 0

/-- Fields say the same wherever they stand if each of them does. -/
theorem carriesOver_ofFields_self {fields : List (String × Value)}
    (h : ∀ field ∈ fields, Restates 0 field.2 field.2 ∧ RestatesOperands 0 field.2 field.2) :
    CarriesOver 0 (ofFields · · · fields) (ofFields · · · fields) := by
  refine carriesOver_ofFields (List.forall₂_same.2 fun field hfield => ?_)
  obtain ⟨hquery, hoperands⟩ := h field hfield
  exact carriesOver_clauseOf (fun _ _ => rfl) (fun _ _ => hoperands) fun _ => hquery

/-- A value says the same wherever it stands, as a query and under connectives. -/
theorem restates_refl (v : Value) : Restates 0 v v ∧ RestatesOperands 0 v v := by
  induction v using Value.induct with
  | undefined => exact ⟨carriesOver_ok _, fun _ => carriesOver_error⟩
  | null | bool | number | bigint | string | regex =>
    exact ⟨carriesOver_ok _, fun _ => carriesOver_ok _⟩
  | array items ih =>
    refine ⟨(carriesOver_ofItems (List.forall₂_same.2 fun v hv => (ih v hv).1) 0).within, ?_⟩
    refine restatesOperands_array (List.forall₂_same.2 fun v hv => ?_)
    exact carriesOver_memberOf (ih v hv).1 id
  | object fields ih =>
    have hquery : Restates 0 (.object fields) (.object fields) :=
      (carriesOver_ofFields_self ih).within
    exact ⟨hquery, fun _ => hquery.map fun query => [query]⟩

/-- A query that is specified by itself is specified in every place below with as much room. -/
theorem ofOperand_of_ofSpecification {limit : Nat} {spec : Value} {query : Query}
    (h : ofSpecification limit spec = .ok query) (path : Path) :
    ofOperand (limit + 1) 0 path spec = .ok query := by
  cases spec with
  | object fields =>
    have hfields := carriesOver_ofFields_self fun field (_ : field ∈ fields) =>
      restates_refl field.2
    exact Specification.within_eq_ok_iff.2 ⟨by omega, hfields limit.zero_le h (by omega)⟩
  | array items =>
    have hitems : List.Forall₂ (Restates 0) items items :=
      List.forall₂_same.2 fun v _ => (restates_refl v).1
    refine Specification.within_eq_ok_iff.2 ⟨by omega, ?_⟩
    exact carriesOver_ofItems hitems 0 limit.zero_le h (by omega)
  | undefined | null | bool | number | bigint | string | regex => cases h

end Query

end RecordQuery
